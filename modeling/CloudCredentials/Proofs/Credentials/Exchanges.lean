import CloudCredentials.Proofs.Credentials.TokenRequests
import CloudCredentials.Proofs.Json.Records
import CloudCredentials.Proofs.Text.Lossy

/-!
# What comes of a request for a token

A service account and a machine ask for tokens in different ways and judge what comes back in the
same way. `Judged` is the judgement, one rule for each verdict, and depends on the outcome of the
request alone. `exchanges_judged` says that both exchanges send one request and report the verdict
on its outcome, and that an assertion that cannot be signed is not sent.
-/

namespace CloudCredentials

/-- The body is a JSON text that holds the token as a string: in the one member `access_token` of an
object, among any others, or as the one item of an array. -/
def GivesToken (body : Bytes) (token : String) : Prop :=
  ∃ (tree : Json.Tree) (pieces : List Json.Piece), tree.WrittenAs body ∧
    tree.Holds "access_token" (some (.string pieces)) ∧ Json.pieceText pieces = some token

/-- A field holds a text exactly if it is there and holds a string that is one. -/
theorem requiredText?_eq_some_iff (found : Option Json.Tree) (text : String) :
    Json.Tree.requiredText? found = some text ↔
      ∃ pieces, found = some (.string pieces) ∧ Json.pieceText pieces = some text := by
  unfold Json.Tree.requiredText?
  split
  · next pieces => simp
  · next hno =>
      simp only [reduceCtorEq, false_iff, not_exists, not_and]
      intro pieces hfound
      exact absurd hfound (hno pieces)

/-- The token that is read is the one that a whole body gives. -/
theorem readToken_eq_some_iff (body : Option Bytes) (token : String) :
    readToken body = some token ↔ ∃ whole, body = some whole ∧ GivesToken whole token := by
  cases body with
  | none => simp [readToken]
  | some whole =>
      have hrecord := Json.readRecord_eq_ok_iff "access_token" whole
      simp only [Option.some.injEq, exists_eq_left']
      constructor
      · intro h
        rw [readToken] at h
        split at h
        · next found hread =>
            obtain ⟨tree, held, hwritten, hholds, hfound⟩ := (hrecord _).1 hread
            obtain rfl : found = held := List.head_eq_of_cons_eq hfound
            obtain ⟨pieces, rfl, htext⟩ := (requiredText?_eq_some_iff found token).1 h
            exact ⟨tree, pieces, hwritten, hholds, htext⟩
        · cases h
      · rintro ⟨tree, pieces, hwritten, hholds, htext⟩
        rw [readToken, (hrecord _).2 ⟨tree, _, hwritten, hholds, rfl⟩]
        exact (requiredText?_eq_some_iff _ _).2 ⟨pieces, rfl, htext⟩

/-- A body gives one token only. -/
theorem GivesToken.unique {body : Bytes} {token other : String} (h : GivesToken body token)
    (hother : GivesToken body other) : token = other := by
  have hread := (readToken_eq_some_iff (some body) token).2 ⟨body, rfl, h⟩
  rw [(readToken_eq_some_iff (some body) other).2 ⟨body, rfl, hother⟩] at hread
  exact (Option.some.inj hread).symm

/-- What a request for a token comes to. -/
inductive Verdict where
  /-- There was no response. -/
  | unanswered (fault : Http.TransportFault)
  /-- The response has another status than one of success. -/
  | refused (status : Nat) (body : String)
  /-- The response is one of success without a token. -/
  | unreadable
  | granted (token : String)

/-- `Says body text` says what the body of a refusal says: what its bytes are read as, UTF-8 or not.
A body that could not be received to its end says nothing. -/
inductive Says : Option Bytes → String → Prop where
  | cut : Says none ""
  | whole (body : Bytes) (text : String) (h : Bytes.ReadsAs body text.toList) :
      Says (some body) text

/-- A body says what is reported of it. -/
theorem says_iff (body : Option Bytes) (text : String) :
    Says body text ↔ (body.map Bytes.lossyText).getD "" = text := by
  constructor
  · intro h
    cases h with
    | cut => rfl
    | whole body text hreads => exact (Bytes.lossyText_eq_iff body text).2 hreads
  · rintro rfl
    cases body with
    | none => exact .cut
    | some body => exact .whole body _ ((Bytes.lossyText_eq_iff body _).1 rfl)

/-- `Judged outcome verdict` says what the outcome of a request for a token comes to. The status is
judged before the body. -/
inductive Judged : Except Http.TransportFault Http.Response → Verdict → Prop where
  | unanswered (fault : Http.TransportFault) : Judged (.error fault) (.unanswered fault)
  | refused (response : Http.Response) (text : String)
      (hstatus : ¬ (200 ≤ response.status ∧ response.status < 300))
      (hbody : Says response.body text) : Judged (.ok response) (.refused response.status text)
  | unreadable (response : Http.Response)
      (hstatus : 200 ≤ response.status ∧ response.status < 300)
      (hnone : ∀ body token, response.body = some body → ¬ GivesToken body token) :
      Judged (.ok response) .unreadable
  | granted (response : Http.Response) (body : Bytes) (token : String)
      (hstatus : 200 ≤ response.status ∧ response.status < 300)
      (hbody : response.body = some body) (htoken : GivesToken body token) :
      Judged (.ok response) (.granted token)

/-- What the caller is told of a verdict. The contexts are the beginnings of the messages for a
request without response and for a response without token. -/
def Verdict.told (requestContext responseContext : String) : Verdict → Except Error String
  | .unanswered fault => .error (.http (requestContext ++ fault.message))
  | .refused status body => .error (.tokenEndpoint status body)
  | .unreadable => .error (.parse (.stated (responseContext ++ "error decoding response body")))
  | .granted token => .ok token

/-- Every outcome of a request for a token is judged. -/
theorem exists_judged (outcome : Except Http.TransportFault Http.Response) :
    ∃ verdict, Judged outcome verdict := by
  cases outcome with
  | error fault => exact ⟨_, .unanswered fault⟩
  | ok response =>
      by_cases hstatus : 200 ≤ response.status ∧ response.status < 300
      · by_cases htoken : ∃ body token, response.body = some body ∧ GivesToken body token
        · obtain ⟨body, token, hbody, hgives⟩ := htoken
          exact ⟨_, .granted response body token hstatus hbody hgives⟩
        · refine ⟨_, .unreadable response hstatus ?_⟩
          intro body token hbody hgives
          exact htoken ⟨body, token, hbody, hgives⟩
      · exact ⟨_, .refused response _ hstatus ((says_iff response.body _).2 rfl)⟩

/-- No outcome is judged in two ways. -/
theorem Judged.unique {outcome : Except Http.TransportFault Http.Response}
    {verdict other : Verdict} (h : Judged outcome verdict) (hother : Judged outcome other) :
    verdict = other := by
  cases h with
  | unanswered fault =>
      cases hother
      rfl
  | refused response text hstatus hbody =>
      cases hother with
      | refused _ same _ hsame =>
          rw [says_iff] at hbody hsame
          rw [← hbody, hsame]
      | unreadable _ hsuccess => exact absurd hsuccess hstatus
      | granted _ _ _ hsuccess => exact absurd hsuccess hstatus
  | unreadable response hstatus hnone =>
      cases hother with
      | refused _ _ hrefused _ => exact absurd hstatus hrefused
      | unreadable => rfl
      | granted _ body token _ hbody htoken => exact absurd htoken (hnone body token hbody)
  | granted response body token hstatus hbody htoken =>
      cases hother with
      | refused _ _ hrefused _ => exact absurd hstatus hrefused
      | unreadable _ _ hnone => exact absurd htoken (hnone body token hbody)
      | granted _ same other _ hsame hother =>
          obtain rfl : body = same := Option.some.inj (hbody.symm.trans hsame)
          rw [htoken.unique hother]

/-- The outcome of a request for a token is told as the verdict on it. -/
theorem tokenOf_of_judged {outcome : Except Http.TransportFault Http.Response} {verdict : Verdict}
    (h : Judged outcome verdict) (requestContext responseContext : String) :
    tokenOf requestContext responseContext outcome =
      verdict.told requestContext responseContext := by
  cases h with
  | unanswered fault => rfl
  | refused response text hstatus hbody =>
      rw [← Http.isSuccess_iff, Bool.not_eq_true] at hstatus
      simp only [tokenOf, hstatus, Bool.false_eq_true, if_false, (says_iff _ _).1 hbody]
      rfl
  | unreadable response hstatus hnone =>
      have hread : readToken response.body = none := by
        rw [Option.eq_none_iff_forall_ne_some]
        intro token htoken
        obtain ⟨body, hbody, hgives⟩ := (readToken_eq_some_iff _ _).1 htoken
        exact hnone body token hbody hgives
      simp only [tokenOf, (Http.isSuccess_iff _).2 hstatus, if_true, hread]
      rfl
  | granted response body token hstatus hbody htoken =>
      have hread := (readToken_eq_some_iff response.body token).2 ⟨body, hbody, htoken⟩
      simp only [tokenOf, (Http.isSuccess_iff _).2 hstatus, if_true, hread]
      rfl

/-- An assertion that cannot be signed is refused with the error that says so. -/
theorem tokenSigning_of_sign {key : ServiceAccountKey} {scopes : List String}
    {subject : Option String} {now : Int} {error : Error}
    (h : Assertion.sign key scopes subject now = .error error) :
    ∃ detail, error = .tokenSigning detail := by
  unfold Assertion.sign at h
  cases hbytes : Assertion.keyBytes? key.privateKey with
  | none =>
      simp only [hbytes] at h
      cases h
      exact ⟨_, rfl⟩
  | some bytes =>
      simp only [hbytes] at h
      split at h
      · cases h
      · cases h
        exact ⟨_, rfl⟩

/-- `Exchanged requestContext responseContext request world run` says that a run from a world sent
the request, changed nothing else but the log, and ended in what is told of the verdict on the
outcome. -/
structure Exchanged (requestContext responseContext : String) (request : Http.Request)
    (world : World) (run : Except Error String × World) : Prop where
  told : ∃ verdict, Judged (world.network.send request).1 verdict ∧
    run.1 = verdict.told requestContext responseContext
  sent : run.2 = { world.afterSending request with log := run.2.log }

/-- A run that ends in what a request comes to, and has only logged apart from sending it, is an
exchange. -/
theorem exchanged_of_run {requestContext responseContext : String} {request : Http.Request}
    {world : World} {run : Except Error String × World} (log : List Event)
    (h : run = (tokenOf requestContext responseContext (world.network.send request).1,
      { world.afterSending request with log })) :
    Exchanged requestContext responseContext request world run := by
  obtain ⟨verdict, hverdict⟩ := exists_judged (world.network.send request).1
  subst h
  constructor
  case told => exact ⟨verdict, hverdict, tokenOf_of_judged hverdict _ _⟩
  case sent => rfl

/-- The outcome of a request for a token has one verdict, and it is what both kinds of exchange
report. A service account exchanges the assertion that it signs; if it cannot sign one it says so
and the world stays as it is. -/
theorem exchanges_judged :
    (∀ outcome, ∃ verdict, Judged outcome verdict ∧
      ∀ other, Judged outcome other → other = verdict) ∧
    (∀ (key : ServiceAccountKey) (scopes : List String) (subject : Option String) (world : World),
      (∃ detail, Assertion.sign key scopes subject world.clock = .error (.tokenSigning detail) ∧
        (key.fetchToken scopes subject).runIn world = (.error (.tokenSigning detail), world)) ∨
      ∃ assertion, Assertion.sign key scopes subject world.clock = .ok assertion ∧
        Exchanged "Token endpoint request failed: " "Failed to parse token response: "
          (key.tokenRequest assertion) world ((key.fetchToken scopes subject).runIn world)) ∧
    ∀ (root : String) (scopes : List String) (world : World),
      Exchanged "Metadata server request failed: " "Failed to parse metadata token response: "
        (Credentials.metadataTokenRequest root scopes) world
        ((Credentials.fetchMetadataToken root scopes).runIn world) := by
  refine ⟨?_, ?_, ?_⟩
  · intro outcome
    obtain ⟨verdict, hverdict⟩ := exists_judged outcome
    exact ⟨verdict, hverdict, fun other hother => hother.unique hverdict⟩
  · intro key scopes subject world
    cases hsign : Assertion.sign key scopes subject world.clock with
    | error error =>
        obtain ⟨detail, rfl⟩ := tokenSigning_of_sign hsign
        exact .inl ⟨detail, rfl, ServiceAccountKey.runIn_fetchToken_of_unsigned hsign⟩
    | ok assertion =>
        exact .inr ⟨assertion, rfl,
          exchanged_of_run _ (ServiceAccountKey.runIn_fetchToken_of_signed hsign)⟩
  · intro root scopes world
    exact exchanged_of_run world.log (Credentials.runIn_fetchMetadataToken root scopes world)

end CloudCredentials
