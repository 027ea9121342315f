import CloudCredentials.Http.Exchange

/-!
# What the network records

`Request.seen?` is a request as the servers see it. A network with a route adds it to what it has
seen when the request is sent, and after it the requests that the client makes of it where a response
redirects: `Trail` says what such a run of requests looks like, and `snd_send` what it leaves. A
response is one of the replies that were waiting, `send_eq_ok`. A request that its headers authorize
is seen with just these headers, `headers_of_seen`.
-/

namespace CloudCredentials.Http

open CloudCredentials.Url

/-- The address without a user and a password that can be moved into the headers. -/
def bareAddress (address : Address) : Address :=
  match address.credentials? with
  | some _ => address.withoutCredentials
  | none => address

/-- The headers with the user and the password of an address. -/
def headersFor (address : Address) (headers : Headers) : Headers :=
  match address.credentials? with
  | some (user, password) => withBasicCredentials headers user password
  | none => headers

/-- Adding a user and a password leaves the other names alone. -/
theorem values_withBasicCredentials (headers : Headers) (user password : String) {name : String}
    (h : name ≠ "authorization") :
    Headers.values (withBasicCredentials headers user password) name =
      Headers.values headers name := by
  have hname : ("authorization" == name) = false := beq_eq_false_iff_ne.2 h.symm
  unfold withBasicCredentials
  split
  · simp [Headers.values, hname]
  · rfl

/-- The address with more fields in its query. -/
def withFields (address : Address) (fields : List (String × String)) : Address :=
  fields.foldl (fun address (name, value) => address.withField name value) address

namespace Request

/-- A request to an address with a host is prepared if its address can be sent. -/
theorem prepare_of_read {request : Request} {read : Address}
    (hread : Address.read request.address = some read) (hhost : read.hasHost = true) :
    request.prepare =
      let address := withFields (bareAddress read) request.query
      if address.isRequestable then .ok (address, headersFor read request.headers)
      else .error (.unsuitable address.text) := by
  rw [prepare, hread]
  simp only [hhost, Bool.not_true, Bool.false_eq_true, if_false]
  unfold bareAddress headersFor
  cases read.credentials? with
  | none => rfl
  | some credentials => rfl

/-- A prepared request goes to the address that was read, with the fields of the query added. -/
theorem prepare_eq_ok {request : Request} {address : Address} {headers : Headers}
    (h : request.prepare = .ok (address, headers)) :
    ∃ read, Address.read request.address = some read ∧
      address = withFields (bareAddress read) request.query ∧
      headers = headersFor read request.headers ∧ address.isRequestable = true := by
  cases hread : Address.read request.address with
  | none =>
      rw [prepare, hread] at h
      cases h
  | some read =>
      refine ⟨read, rfl, ?_⟩
      cases hhost : read.hasHost with
      | false =>
          simp only [prepare, hread, hhost] at h
          cases h
      | true =>
          rw [prepare_of_read hread hhost] at h
          dsimp only at h
          split at h
          · next hrequestable =>
              cases h
              exact ⟨rfl, rfl, hrequestable⟩
          · cases h

/-- Requests to one address with one query go to the same place, with the headers of each, or fail
alike. -/
theorem prepare_congr {left right : Request} (haddress : left.address = right.address)
    (hquery : left.query = right.query) :
    (∃ fault, left.prepare = .error fault ∧ right.prepare = .error fault) ∨
      ∃ address read, left.prepare = .ok (address, headersFor read left.headers) ∧
        right.prepare = .ok (address, headersFor read right.headers) := by
  cases hread : Address.read right.address with
  | none =>
      refine .inl ⟨.noAddress, ?_, ?_⟩
      · rw [prepare, haddress, hread]
        rfl
      · rw [prepare, hread]
        rfl
  | some read =>
      cases hhost : read.hasHost with
      | false =>
          refine .inl ⟨.unsuitable read.text, ?_, ?_⟩
          · simp only [prepare, haddress, hread, hhost]
            rfl
          · simp only [prepare, hread, hhost]
            rfl
      | true =>
          rw [prepare_of_read (haddress ▸ hread) hhost, prepare_of_read hread hhost, hquery]
          dsimp only
          split
          · exact .inr ⟨_, read, rfl, rfl⟩
          · exact .inl ⟨_, rfl, rfl⟩

/-- A request that the servers see has been prepared. -/
theorem seen?_eq_some {request : Request} {seen : SeenRequest} (h : request.seen? = some seen) :
    ∃ address headers, request.prepare = .ok (address, headers) ∧
      seen = ⟨request.method, address.requestText, headers, request.body.getD [], false⟩ := by
  unfold seen? at h
  split at h
  · cases h
  · next address headers hprepare => exact ⟨address, headers, hprepare, (Option.some.inj h).symm⟩

/-- A request is seen with its own method and body. -/
theorem method_body_of_seen {request : Request} {seen : SeenRequest}
    (h : request.seen? = some seen) :
    seen.method = request.method ∧ seen.body = request.body.getD [] := by
  obtain ⟨_, _, _, rfl⟩ := seen?_eq_some h
  exact ⟨rfl, rfl⟩

/-- A request is seen with its own values under every name but that of the authorization. -/
theorem values_of_seen {request : Request} {seen : SeenRequest} (h : request.seen? = some seen)
    {name : String} (hname : name ≠ "authorization") :
    Headers.values seen.headers name = Headers.values request.headers name := by
  obtain ⟨address, headers, hprepare, rfl⟩ := seen?_eq_some h
  obtain ⟨read, _, _, hheaders, _⟩ := prepare_eq_ok hprepare
  show Headers.values headers name = _
  rw [hheaders, headersFor]
  split
  · exact values_withBasicCredentials _ _ _ hname
  · rfl

/-- A request that its headers authorize is seen with just these headers. -/
theorem headers_of_seen {request : Request} {seen : SeenRequest} (h : request.seen? = some seen)
    (hauthorized : Headers.values request.headers "authorization" ≠ []) :
    seen.headers = request.headers := by
  obtain ⟨address, headers, hprepare, rfl⟩ := seen?_eq_some h
  obtain ⟨read, _, _, hheaders, _⟩ := prepare_eq_ok hprepare
  show headers = request.headers
  rw [hheaders, headersFor]
  split
  · rw [withBasicCredentials, if_neg]
    simpa using hauthorized
  · rfl

end Request

/-- A request that was sent by this method to this address, as the servers see it. Of the address
they see its usual form. -/
def SeenRequest.IsTo (seen : SeenRequest) (method address : String) : Prop :=
  seen.method = method ∧
    ∃ request : Request, request.address = address ∧ request.seen? = some seen

/-- A request is seen as one by its method to its address. -/
theorem Request.isTo_of_seen {request : Request} {seen : SeenRequest}
    (h : request.seen? = some seen) : seen.IsTo request.method request.address :=
  ⟨(method_body_of_seen h).1, request, rfl, h⟩

/-! ## Redirections -/

/-- The reply does not ask the client to go to another place. -/
def Reply.IsDirect : Reply → Prop
  | .respond status headers _ _ =>
      status ∉ [301, 302, 303, 307, 308] ∨ Headers.values headers "location" = []
  | .close => True

/-- No reply that waits redirects a request. -/
def Network.IsDirect (network : Network) : Prop :=
  ∀ reply ∈ network.replies, reply.IsDirect

/-- A reply that does not redirect leaves the client no choice. -/
theorem choose_of_isDirect {redirection : Redirection} {reply : Reply} (h : reply.IsDirect)
    {method : String} {response : Response} (hresponse : reply.response? method = some response)
    (address : String) : redirection.choose method address response = none := by
  cases reply with
  | close => cases hresponse
  | respond status headers body isCut =>
      cases hresponse
      have hdirect : (⟨status, headers, if isBodiless method status then some [] else
          if isCut then none else some body⟩ : Response).redirects = false := by
        rcases h with hstatus | hplace
        · simpa [Response.redirects] using fun hmem => absurd hmem (by simpa using hstatus)
        · simp [Response.redirects, Headers.first?, hplace]
      rw [Redirection.choose, hdirect]
      rfl

/-- `Trail network seen` says that a network sees these requests when one is sent: the request itself
and after it those that the client makes of it, or nothing at all. -/
structure Trail (network : Network) (seen : List SeenRequest) : Prop where
  /-- The first request is not due to a redirection. -/
  own : ∀ first ∈ seen.head?, first.isRedirected = false
  /-- The others are, and they carry the body of the first one or none. -/
  others : ∀ other ∈ seen.tail, other.isRedirected = true ∧
    ∀ first ∈ seen.head?, other.body = [] ∨ other.body = first.body
  /-- There are none if no reply redirects. -/
  direct : network.IsDirect → seen.tail = []

/-- Nothing at all is seen. -/
theorem Trail.nil (network : Network) : Trail network [] := by
  constructor <;> simp

/-- A network that redirects no more than another sees what the other may see. -/
theorem Trail.mono {network before : Network} {seen : List SeenRequest} (h : Trail network seen)
    (hdirect : before.IsDirect → network.IsDirect) : Trail before seen where
  own := h.own
  others := h.others
  direct := fun hbefore => h.direct (hdirect hbefore)

/-- What the servers see of a request is the request, and after it what the client makes of it. -/
theorem seen_exchange (redirection : Redirection) (replies : List Reply) (hops : Nat)
    (request : SeenRequest) (address : String) :
    ∃ followed, (exchange redirection replies hops request address).seen = request :: followed ∧
      ∀ other ∈ followed, other.isRedirected = true ∧
        (other.body = [] ∨ other.body = request.body) := by
  induction replies generalizing hops request address with
  | nil => exact ⟨[], rfl, by simp⟩
  | cons reply replies ih =>
      rw [exchange]
      split
      · exact ⟨[], rfl, by simp⟩
      · split
        · exact ⟨[], rfl, by simp⟩
        · exact ⟨[], rfl, by simp⟩
        · exact ⟨[], rfl, by simp⟩
        · next redirect hops _ =>
            obtain ⟨followed, hseen, hfollowed⟩ :=
              ih hops (redirect.apply request) redirect.address
            have hbody : (redirect.apply request).body = [] ∨
                (redirect.apply request).body = request.body := by
              rw [Redirect.apply]
              cases redirect.keepsBody with
              | true => exact .inr rfl
              | false => exact .inl rfl
            refine ⟨redirect.apply request :: followed, congrArg (request :: ·) hseen, ?_⟩
            rw [List.forall_mem_cons]
            refine ⟨⟨rfl, hbody⟩, fun other hother => ?_⟩
            obtain ⟨hredirected, hempty | hsame⟩ := hfollowed other hother
            · exact ⟨hredirected, .inl hempty⟩
            · rw [hsame]
              exact ⟨hredirected, hbody⟩

/-- Each request that the servers see takes one of the replies that wait. -/
theorem replies_exchange (redirection : Redirection) (replies : List Reply) (hops : Nat)
    (request : SeenRequest) (address : String) :
    (exchange redirection replies hops request address).replies =
      replies.drop (exchange redirection replies hops request address).seen.length := by
  induction replies generalizing hops request address with
  | nil => rfl
  | cons reply replies ih =>
      rw [exchange]
      split
      · rfl
      · split
        · rfl
        · rfl
        · rfl
        · exact ih _ _ _

/-- Where no reply redirects, the servers see nothing but the request. -/
theorem seen_exchange_of_isDirect {replies : List Reply} (h : ∀ reply ∈ replies, reply.IsDirect)
    (redirection : Redirection) (hops : Nat) (request : SeenRequest) (address : String) :
    (exchange redirection replies hops request address).seen = [request] := by
  cases replies with
  | nil => rfl
  | cons reply replies =>
      rw [exchange]
      split
      · rfl
      · next response hresponse =>
          rw [choose_of_isDirect (h reply List.mem_cons_self) hresponse]

example :
    let request : SeenRequest := ⟨"POST", "http://a/", [], [0x61], false⟩
    let redirect : Redirect := ⟨"GET", "http://b/", "http://b/", [], [], false⟩
    let moved : Reply := .respond 302 [⟨"location", Bytes.ofText "/b", false⟩] [] false
    (exchange (fun _ _ _ => some (.ok redirect)) [moved, .close] redirectLimit request "a").seen =
      [request, ⟨"GET", "http://b/", [], [], true⟩] := by decide

/-- A response is made of a reply, the one to the last request that the servers see. -/
theorem exchange_eq_ok {redirection : Redirection} {replies : List Reply} {hops : Nat}
    {request : SeenRequest} {address : String} {response : Response}
    (h : (exchange redirection replies hops request address).outcome = .ok response) :
    ∃ passed reply rest method, replies = passed ++ reply :: rest ∧
      passed.length + 1 = (exchange redirection replies hops request address).seen.length ∧
      reply.response? method = some response := by
  induction replies generalizing hops request address with
  | nil => cases h
  | cons reply replies ih =>
      rw [exchange] at h ⊢
      split at h
      · cases h
      · next given hgiven =>
          split at h
          · cases h
            exact ⟨[], reply, replies, request.method, rfl, rfl, hgiven⟩
          · cases h
          · cases h
          · next redirect hops _ =>
              obtain ⟨passed, last, rest, method, hreplies, hlength, hlast⟩ := ih h
              refine ⟨reply :: passed, last, rest, method, by rw [hreplies]; rfl, ?_, hlast⟩
              simp only [List.length_cons, hlength]

namespace Network

/-- The requests that the network sees when a request is sent. -/
def trail (network : Network) (request : Request) : List SeenRequest :=
  match request.prepare with
  | .error _ => []
  | .ok (address, headers) =>
      if network.hasRoute then
        (exchange network.redirection network.replies redirectLimit
          ⟨request.method, address.requestText, headers, request.body.getD [], false⟩
          address.text).seen
      else []

/-- The first request that the network sees when a request is sent. -/
def recorded (network : Network) (request : Request) : Option SeenRequest :=
  if network.hasRoute then request.seen? else none

/-- A request that is sent is seen as it is stated, and after it what the client makes of it. -/
theorem trail_eq (network : Network) (request : Request) :
    (network.recorded request = none ∧ network.trail request = []) ∨
      ∃ own followed, network.recorded request = some own ∧
        network.trail request = own :: followed ∧
        ∀ other ∈ followed, other.isRedirected = true ∧ (other.body = [] ∨ other.body = own.body) := by
  unfold recorded trail Request.seen?
  cases request.prepare with
  | error fault => simp
  | ok prepared =>
      obtain ⟨address, headers⟩ := prepared
      cases network.hasRoute with
      | false => simp
      | true =>
          obtain ⟨followed, hseen, hfollowed⟩ := seen_exchange network.redirection network.replies
            redirectLimit ⟨request.method, address.requestText, headers, request.body.getD [], false⟩
            address.text
          exact .inr ⟨_, followed, rfl, hseen, hfollowed⟩

/-- The first request that is seen is the one that is recorded. -/
theorem head?_trail (network : Network) (request : Request) :
    (network.trail request).head? = network.recorded request := by
  obtain ⟨hrecorded, htrail⟩ | ⟨own, followed, hrecorded, htrail, -⟩ := trail_eq network request
  · rw [hrecorded, htrail]
    rfl
  · rw [hrecorded, htrail]
    rfl

/-- What is recorded of a request is the request as the servers see it. -/
theorem seen?_of_recorded {network : Network} {request : Request} {seen : SeenRequest}
    (h : network.recorded request = some seen) : request.seen? = some seen := by
  unfold recorded at h
  split at h
  · exact h
  · cases h

/-- The first request that is seen is the one that is sent, as the servers see it. -/
theorem seen?_of_head?_trail {network : Network} {request : Request} {seen : SeenRequest}
    (h : seen ∈ (network.trail request).head?) : request.seen? = some seen := by
  rw [head?_trail] at h
  exact seen?_of_recorded h

/-- Sending a request adds its trail to the requests that have been seen, and each request of the
trail takes a reply. -/
theorem snd_send (network : Network) (request : Request) :
    (network.send request).2 =
      { network with
        seen := network.seen ++ network.trail request
        replies := network.replies.drop (network.trail request).length } := by
  unfold send trail
  cases request.prepare with
  | error fault => simp
  | ok prepared =>
      obtain ⟨address, headers⟩ := prepared
      by_cases hroute : network.hasRoute = true
      · simp [hroute, replies_exchange]
      · simp only [if_neg hroute, List.append_nil, List.length_nil, List.drop_zero]

/-- Sending a request adds its trail to the requests that have been seen. -/
theorem seen_send (network : Network) (request : Request) :
    (network.send request).2.seen = network.seen ++ network.trail request := by
  rw [snd_send]

/-- What is seen of a request is a trail. -/
theorem isTrail (network : Network) (request : Request) :
    Trail network (network.trail request) := by
  obtain ⟨-, htrail⟩ | ⟨own, followed, hrecorded, htrail, hfollowed⟩ := trail_eq network request
  · rw [htrail]
    exact .nil network
  · constructor
    case own =>
      intro first hfirst
      obtain ⟨_, _, _, rfl⟩ := Request.seen?_eq_some (seen?_of_head?_trail hfirst)
      rfl
    case others =>
      rw [htrail]
      intro other hother
      obtain ⟨hredirected, hbody⟩ := hfollowed other hother
      refine ⟨hredirected, ?_⟩
      rintro first ⟨⟩
      exact hbody
    case direct =>
      intro hdirect
      unfold trail
      cases request.prepare with
      | error fault => rfl
      | ok prepared =>
          obtain ⟨address, headers⟩ := prepared
          cases network.hasRoute with
          | false => rfl
          | true =>
              simp only [if_true]
              rw [seen_exchange_of_isDirect hdirect]
              rfl

/-- `Sees before after seen` says that a network has seen the requests of one trail between two
states, and has given away a reply for each. -/
structure Sees (before after : Network) (seen : List SeenRequest) : Prop where
  after_eq : after =
    { before with seen := before.seen ++ seen, replies := before.replies.drop seen.length }
  trail : Trail before seen

/-- A network that sends a request sees its trail. -/
theorem sees_send (network : Network) (request : Request) :
    Sees network (network.send request).2 (network.trail request) :=
  ⟨network.snd_send request, network.isTrail request⟩

/-- A network that is left alone sees nothing. -/
theorem Sees.refl (network : Network) : Sees network network [] where
  after_eq := by simp
  trail := .nil network

/-- The requests that have been seen stay, and those of the trail come after them. -/
theorem Sees.seen_eq {before after : Network} {seen : List SeenRequest}
    (h : Sees before after seen) : after.seen = before.seen ++ seen := by
  rw [h.after_eq]

/-- A network on which no reply redirects stays so. -/
theorem Sees.isDirect {before after : Network} {seen : List SeenRequest}
    (h : Sees before after seen) (hdirect : before.IsDirect) : after.IsDirect := by
  rw [h.after_eq]
  exact fun reply hreply => hdirect reply (List.mem_of_mem_drop hreply)

/-- What comes of a request that is exchanged depends on its method and address alone. -/
theorem outcome_exchange_congr (redirection : Redirection) (replies : List Reply) (hops : Nat)
    {request other : SeenRequest} (h : request.method = other.method) (address : String) :
    (exchange redirection replies hops request address).outcome =
      (exchange redirection replies hops other address).outcome := by
  induction replies generalizing hops request other address with
  | nil => rfl
  | cons reply replies ih =>
      rw [exchange, exchange, h]
      split
      · rfl
      · split
        · rfl
        · rfl
        · rfl
        · next redirect hops _ =>
            have hmethod : (redirect.apply request).method = (redirect.apply other).method := rfl
            exact ih hops hmethod redirect.address

/-- What comes of a request depends on the method, on the address that is prepared, on the replies
that wait, on whether there is a route and on what is done about redirections. -/
theorem fst_send_congr {network other : Network} {request another : Request}
    (hroute : network.hasRoute = other.hasRoute) (hreplies : network.replies = other.replies)
    (hredirection : network.redirection = other.redirection)
    (hmethod : request.method = another.method)
    (hprepare : request.prepare.map Prod.fst = another.prepare.map Prod.fst) :
    (network.send request).1 = (other.send another).1 := by
  unfold send
  cases hleft : request.prepare with
  | error fault =>
      rw [hleft] at hprepare
      cases hright : another.prepare with
      | error cause =>
          rw [hright] at hprepare
          exact congrArg Except.error (Except.error.inj hprepare)
      | ok prepared =>
          rw [hright] at hprepare
          cases hprepare
  | ok prepared =>
      obtain ⟨address, headers⟩ := prepared
      rw [hleft] at hprepare
      cases hright : another.prepare with
      | error cause =>
          rw [hright] at hprepare
          cases hprepare
      | ok prepared =>
          obtain ⟨address', headers'⟩ := prepared
          rw [hright] at hprepare
          obtain rfl : address = address' := Except.ok.inj hprepare
          simp only [hroute, hreplies, hredirection]
          split
          · apply outcome_exchange_congr
            exact hmethod
          · rfl

/-- A response is made of a waiting reply, the one to the last request of the trail. -/
theorem send_eq_ok {network : Network} {request : Request} {response : Response}
    (h : (network.send request).1 = .ok response) :
    ∃ passed body isCut rest method,
      network.replies = passed ++ .respond response.status response.headers body isCut :: rest ∧
      passed.length + 1 = (network.trail request).length ∧
      response.body =
        if isBodiless method response.status then some [] else if isCut then none else some body := by
  unfold send at h
  unfold trail
  cases hprepare : request.prepare with
  | error fault => simp [hprepare] at h
  | ok prepared =>
      obtain ⟨address, headers⟩ := prepared
      simp only [hprepare] at h
      split at h
      · next hroute =>
          obtain ⟨passed, reply, rest, method, hreplies, hlength, hresponse⟩ := exchange_eq_ok h
          cases reply with
          | close => cases hresponse
          | respond status headers body isCut =>
              cases hresponse
              simp only [hroute, if_true]
              exact ⟨passed, body, isCut, rest, method, hreplies, hlength, rfl⟩
      · cases h

end Network

end CloudCredentials.Http
