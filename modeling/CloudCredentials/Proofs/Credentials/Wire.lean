import CloudCredentials.Connection.Scope
import CloudCredentials.Proofs.Credentials.TokenRequests
import CloudCredentials.Proofs.ServiceAccount.Assertions
import CloudCredentials.Proofs.Url.Query

/-!
# What token requests state on the wire

A token request is a form with an assertion, or an address with a query. `Credentials.Asks` says
what a server reads there: the scopes and the subject that are asked for, and whom the assertion is
meant for, which is the very endpoint that the key of the credentials states. `AskedFor.asks` says
that the requests of credentials state what the credentials hold.
-/

namespace CloudCredentials

open CloudCredentials.Encoding CloudCredentials.Json

/-- `Assertion.Claiming assertion scope subject audience` says what a server reads in the second
part of an assertion: these claims, each of them once, and no subject if there is none. -/
def Assertion.Claiming (assertion scope : String) (subject : Option String) (audience : String) :
    Prop :=
  ∃ header body signature claims scopeTree subjectTree audienceTree,
    Text.separate (· == '.') assertion.toList = [header, body, signature] ∧
      Base64.forAddresses.decode body = some claims ∧
      readRecord ["scope", "sub", "aud"] claims = .ok [scopeTree, subjectTree, audienceTree] ∧
      Tree.requiredText? scopeTree = some scope ∧
      Tree.requiredText? audienceTree = some audience ∧
      Tree.requiredText? subjectTree = subject ∧ subjectTree.isSome = subject.isSome

/-- A signed assertion claims the scopes joined by spaces, the subject, and the token endpoint of
the key as it is stated. -/
theorem Assertion.claiming_of_sign {key : ServiceAccountKey} {scopes : List String}
    {subject : Option String} {now : Int} {assertion : String}
    (h : sign key scopes subject now = .ok assertion) :
    Claiming assertion (String.intercalate " " scopes) subject key.tokenUri := by
  obtain ⟨signature, hparts⟩ := separate_of_sign h
  have htree := read_of_readsAs
    (Value.object_readsAs (claimMembers (claims key scopes subject now)))
  rw [← document_eq] at htree
  have hrecord : readRecord ["scope", "sub", "aud"]
      (Bytes.ofText (document (claims key scopes subject now)).text) =
        .ok [some (.string (textPieces (String.intercalate " " scopes))),
          subject.map fun subject => .string (textPieces subject),
          some (.string (textPieces key.tokenUri))] := by
    rw [readRecord, htree]
    simp only [Tree.record?, mapM_pieceText_read]
    cases subject with
    | none => simp [claimMembers, claims, textMember, integerMember]
    | some subject => simp [claimMembers, claims, textMember, integerMember]
  refine ⟨_, _, _, _, _, _, _, hparts, decode_documentPart _, hrecord, ?_, ?_, ?_, ?_⟩
  · exact pieceText_textPieces _
  · exact pieceText_textPieces _
  · cases subject with
    | none => rfl
    | some subject => exact pieceText_textPieces subject
  · exact Option.isSome_map

namespace Credentials

/-- `QueriesFor scopes address` says what a server reads in the query of an address: one field, with
these scopes between commas. -/
def QueriesFor (scopes : List String) (address : String) : Prop :=
  ∃ before query value,
    Text.breakAt? ['?'] address.toList = some (before, query) ∧
      Url.formPairs query = [(Bytes.ofText "scopes", Bytes.ofText value)] ∧
      (Text.separate (· == ',') value.toList).map String.ofList = scopes

/-- Scopes without commas are recovered from the text that has commas between them. -/
theorem separate_intercalate {scopes : List String} (hne : scopes ≠ [])
    (hcomma : ∀ scope ∈ scopes, ',' ∉ scope.toList) :
    (Text.separate (· == ',') (String.intercalate "," scopes).toList).map String.ofList =
      scopes := by
  cases scopes with
  | nil => exact absurd rfl hne
  | cons first scopes =>
      have hfree : ∀ piece ∈ first.toList :: scopes.map String.toList, ',' ∉ piece := by
        rw [← List.map_cons]
        intro piece hpiece
        obtain ⟨scope, hscope, rfl⟩ := List.mem_map.1 hpiece
        exact hcomma scope hscope
      have hjoin : (String.intercalate "," (first :: scopes)).toList =
          Text.join [','] (first.toList :: scopes.map String.toList) := String.toList_intercalate
      rw [hjoin, Text.separate_join ',' _ _ hfree, ← List.map_cons, List.map_map]
      simp

/-- The request for a token of the machine asks in its query for the scopes, if the root of the
metadata server has neither a query nor a fragment. -/
theorem queriesFor_of_seen {root : String} {scopes : List String} {seen : Http.SeenRequest}
    (h : (metadataTokenRequest root scopes).seen? = some seen) (hne : scopes ≠ [])
    (hcomma : ∀ scope ∈ scopes, ',' ∉ scope.toList) (hquestion : '?' ∉ root.toList)
    (hfragment : '#' ∉ root.toList) : QueriesFor scopes seen.address := by
  have hquery : (metadataTokenRequest root scopes).query =
      [("scopes", String.intercalate "," scopes)] := by
    cases scopes with
    | nil => exact absurd rfl hne
    | cons scope scopes => rfl
  have haddress : (metadataTokenRequest root scopes).address.toList =
      root.toList ++ metadataTokenPath.toList := String.toList_append
  have hpath : '?' ∉ metadataTokenPath.toList ∧ '#' ∉ metadataTokenPath.toList := by decide
  obtain ⟨before, hbreak⟩ := Url.query_of_seen h hquery
    (by rw [haddress]; simp [hquestion, hpath.1]) (by rw [haddress]; simp [hfragment, hpath.2])
  exact ⟨before, _, _, hbreak, Url.formPairs_formFields _, separate_intercalate hne hcomma⟩

/-- `Asks credentials scopes subject seen` says that a request that the network has seen asks for a
token of the credentials for these scopes and, if there is one, for this subject. -/
inductive Asks (credentials : Credentials) (scopes : List String) (subject : Option String)
    (seen : Http.SeenRequest) : Prop where
  /-- An assertion is posted, in a form, to the endpoint that the key of the credentials states, or to
  the usual one. It claims the scopes, the subject, and to be meant for this endpoint. -/
  | assertion (key : ServiceAccountKey) (endpoint signed form : String)
      (hkey : credentials.key? = some key)
      (hendpoint : endpoint = key.storedTokenUri.getD "https://oauth2.googleapis.com/token")
      (hsent : seen.IsTo "POST" endpoint) (hbody : Bytes.text? seen.body = some form)
      (hform : Url.formPairs form.toList =
        [(Bytes.ofText "grant_type", Bytes.ofText "urn:ietf:params:oauth:grant-type:jwt-bearer"),
          (Bytes.ofText "assertion", Bytes.ofText signed)])
      (hclaims : Assertion.Claiming signed (String.intercalate " " scopes) subject endpoint)
  /-- The metadata server of the credentials is asked for the scopes. There is no subject then. -/
  | metadata (root : String) (hidentity : credentials.identity = .machine root)
      (hsubject : subject = none)
      (hsent : seen.IsTo "GET"
        (root ++ "/computeMetadata/v1/instance/service-accounts/default/token"))
      (hquery : '?' ∉ root.toList → '#' ∉ root.toList → QueriesFor scopes seen.address)

/-- Credentials whose scopes can be told apart on the wire ask for their scopes and their
subject. -/
theorem AskedFor.asks {credentials : Credentials} {world : World} {seen : Http.SeenRequest}
    (h : credentials.AskedFor world seen) (hne : credentials.scopes ≠ [])
    (hcomma : ∀ scope ∈ credentials.scopes, ',' ∉ scope.toList) :
    Asks credentials credentials.scopes credentials.subject seen := by
  cases h with
  | assertion key signed hkey hsigned hstated hsent =>
      generalize hform : Url.formFields
        [("grant_type", ServiceAccountKey.assertionGrant), ("assertion", signed)] = form
      have hbytes : (key.tokenRequest signed).body = some (Bytes.ofText (String.ofList form)) := by
        rw [ServiceAccountKey.tokenRequest, hform]
      have hbody : Bytes.text? seen.body = some (String.ofList form) := by
        rw [(Http.Request.method_body_of_seen hstated).2, hbytes, Option.getD_some,
          Bytes.text?_ofText]
      have hpairs : Url.formPairs (String.ofList form).toList =
          [(Bytes.ofText "grant_type", Bytes.ofText ServiceAccountKey.assertionGrant),
            (Bytes.ofText "assertion", Bytes.ofText signed)] := by
        rw [String.toList_ofList, ← hform, Url.formPairs_formFields]
        simp only [List.map_cons, List.map_nil]
      exact .assertion key _ signed _ hkey rfl hsent hbody hpairs
        (Assertion.claiming_of_sign hsigned)
  | metadata root hidentity hstated hsent =>
      have hsubject : credentials.subject = none := by rw [Credentials.subject, hidentity]
      exact .metadata root hidentity hsubject hsent (queriesFor_of_seen hstated hne hcomma)

end Credentials

end CloudCredentials
