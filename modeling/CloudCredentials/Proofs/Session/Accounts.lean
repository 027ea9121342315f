import CloudCredentials.Proofs.Credentials.Decision
import CloudCredentials.Proofs.Session.Ledger

/-!
# How the log accounts for a session

`Logged` says which events a call adds to the log, apart from those of the calls that it makes
itself. The log of a session is such blocks, one for each entry of the ledger in order, with events
between them that tell of other things, `Accounts`. `log_accounts` says so of all sessions, and what
follows for the events that tell of an exchange or of a request.
-/

namespace CloudCredentials

namespace Event

/-- The messages that tell of calls. -/
def callMessages : List String :=
  ["both key_path and keyfile_dict are set, using key_path",
    "Getting connection using default credentials since no key file is defined for hook.",
    "Getting connection using JSON key file",
    "Getting connection using JSON key data from the connection",
    "exchanging service account assertion",
    "sending request", "response received", "request error"]

/-- The event tells of something else than a call. -/
def IsAside (event : Event) : Prop :=
  event.message ∉ callMessages

instance (event : Event) : Decidable event.IsAside :=
  inferInstanceAs (Decidable (¬ _))

end Event

namespace Resolver

/-- `Notes resolver note` says what is logged of the keys of a connection: that there are two, if it
has both a key file and an inline key. -/
inductive Notes (resolver : Resolver) : List Event → Prop where
  | twofold {path text : String} (hpath : resolver.connection.Sets .keyPath path)
      (htext : resolver.connection.Sets .keyData text) :
      Notes resolver [⟨.debug, .auth, "both key_path and keyfile_dict are set, using key_path",
        [.plain "conn_id" resolver.connectionId]⟩]
  | single (h : ¬ ((∃ path, resolver.connection.Sets .keyPath path) ∧
      ∃ text, resolver.connection.Sets .keyData text)) : Notes resolver []

/-- The note on two keys is the one that making credentials begins with. -/
theorem notes_ambiguity (resolver : Resolver) : resolver.Notes resolver.ambiguity := by
  have hkey : ∀ setting, (resolver.connection.get setting).isSome = true ↔
      ∃ text, resolver.connection.Sets setting text := by
    intro setting
    simp only [Option.isSome_iff_exists, Connection.get_eq_some_iff]
  rw [ambiguity]
  split
  · next h =>
      rw [Bool.and_eq_true] at h
      obtain ⟨path, hpath⟩ := (hkey .keyPath).1 h.1
      obtain ⟨text, htext⟩ := (hkey .keyData).1 h.2
      exact .twofold hpath htext
  · next h =>
      refine .single fun hboth => h ?_
      rw [Bool.and_eq_true]
      exact ⟨(hkey .keyPath).2 hboth.1, (hkey .keyData).2 hboth.2⟩

end Resolver

namespace ServiceAccountKey

/-- Exchange an assertion for a token, with a client that sends requests like this. -/
def postOver (send : Http.Request → Action (Except Http.TransportFault Http.Response))
    (key : ServiceAccountKey) (assertion : String) : Action String := do
  let outcome ← send (key.tokenRequest assertion)
  Action.ofExcept
    (tokenOf "Token endpoint request failed: " "Failed to parse token response: " outcome)

/-- `Announces key scopes subject world assertion` says that an assertion is signed in a world and
posted, whatever client posts it, when the event that tells so is the last one in the log. -/
structure Announces (key : ServiceAccountKey) (scopes : List String) (subject : Option String)
    (world : World) (assertion : String) : Prop where
  signed : Assertion.sign key scopes subject world.clock = .ok assertion
  posted : ∀ send, (key.fetchTokenOver send scopes subject).runIn world =
    (key.postOver send assertion).runIn { world with log := world.log ++ [key.exchanging] }

/-- An assertion that can be signed is announced. -/
theorem announces_of_sign {key : ServiceAccountKey} {scopes : List String}
    {subject : Option String} {world : World} {assertion : String}
    (h : Assertion.sign key scopes subject world.clock = .ok assertion) :
    key.Announces scopes subject world assertion where
  signed := h
  posted := fun send => by
    rw [fetchTokenOver, Action.runIn_bind_of_ok (Action.runIn_get world), h,
      Action.runIn_bind_of_ok (Action.runIn_ofExcept (.ok assertion) world),
      Action.runIn_bind_of_ok (Action.runIn_report _ _ _ _ world)]
    rfl

end ServiceAccountKey

namespace Session

/-! ## Accounts -/

/-- `Logged entry block` says which events a call adds to the log, without those of the calls that
it makes. -/
inductive Logged : Entry → List Event → Prop where
  /-- A source is named once, and then the source may speak. -/
  | chosen {resolver : Resolver} {world : World} {source : CredentialSource}
      {note search : List Event} (hnote : resolver.Notes note)
      (hsource : resolver.connection.source = .ok source)
      (hsearch : ∀ event ∈ search, event.IsAside) :
      Logged (.credentials resolver world) (note ++ resolver.choice source :: search)
  /-- Without a source none is named. -/
  | refused {resolver : Resolver} {world : World} {error : Error} {note : List Event}
      (hnote : resolver.Notes note) (hsource : resolver.connection.source = .error error) :
      Logged (.credentials resolver world) note
  /-- A service account tells of an assertion once it is signed, before it is posted. -/
  | exchanged {key : ServiceAccountKey} {subject : Option String} {scopes : List String}
      {world : World} {assertion : String} (h : key.Announces scopes subject world assertion) :
      Logged (.token ⟨.serviceAccount key subject, scopes⟩ world) [key.exchanging]
  /-- It tells nothing of an assertion that cannot be signed. -/
  | unsigned {key : ServiceAccountKey} {subject : Option String} {scopes : List String}
      {world : World} {error : Error}
      (h : Assertion.sign key scopes subject world.clock = .error error) :
      Logged (.token ⟨.serviceAccount key subject, scopes⟩ world) []
  /-- Other credentials tell nothing. -/
  | keyless {credentials : Credentials} {world : World} (h : credentials.key? = none) :
      Logged (.token credentials world) []
  /-- A call that returns a response tells of the request and of that response. -/
  | received {client : Client} {call : Client.Call} {world : World} {headers : Http.Headers}
      {response : Http.Response}
      (hprepared : ((client.prepareHeaders call.stated.headers).runIn world).1 = .ok headers)
      (houtcome : ((call.perform client).runIn world).1 = .ok response) :
      Logged (.request client call world)
        [Client.sending call.stated, Client.sent call.stated (.ok response)]
  /-- A call whose request gets no response tells of the request and of the fault. -/
  | failed {client : Client} {call : Client.Call} {world : World} {headers : Http.Headers}
      {fault : Http.TransportFault}
      (hprepared : ((client.prepareHeaders call.stated.headers).runIn world).1 = .ok headers)
      (houtcome : ((call.perform client).runIn world).1 = .error (.http fault.message)) :
      Logged (.request client call world)
        [Client.sending call.stated, Client.sent call.stated (.error fault)]
  /-- A call whose headers cannot be prepared tells nothing. -/
  | unprepared {client : Client} {call : Client.Call} {world : World} {error : Error}
      (hprepared : ((client.prepareHeaders call.stated.headers).runIn world).1 = .error error)
      (houtcome : ((call.perform client).runIn world).1 = .error error) :
      Logged (.request client call world) []

/-- `Accounts entries events` says that the events are the blocks of the entries in order, with
events between them that tell of other things. -/
inductive Accounts : List Entry → List Event → Prop where
  | nil : Accounts [] []
  | aside {event : Event} {entries : List Entry} {events : List Event} (h : event.IsAside)
      (hrest : Accounts entries events) : Accounts entries (event :: events)
  | entry {entry : Entry} {block : List Event} {entries : List Entry} {events : List Event}
      (h : Logged entry block) (hrest : Accounts entries events) :
      Accounts (entry :: entries) (block ++ events)

/-- What accounts for two lists of entries accounts for one after the other. -/
theorem Accounts.append {first second : List Entry} {events more : List Event}
    (h : Accounts first events) (hmore : Accounts second more) :
    Accounts (first ++ second) (events ++ more) := by
  induction h with
  | nil => exact hmore
  | aside h _ ih => exact .aside h ih
  | entry h _ ih =>
      rw [List.append_assoc, List.cons_append]
      exact .entry h ih

/-- A block accounts for its entry. -/
theorem Logged.accounts {entry : Entry} {block : List Event} (h : Logged entry block) :
    Accounts [entry] block := by
  have hsingle := Accounts.entry h .nil
  rwa [List.append_nil] at hsingle

/-- Where there are no entries, all events tell of other things. -/
theorem accounts_nil_iff (events : List Event) :
    Accounts [] events ↔ ∀ event ∈ events, event.IsAside := by
  constructor
  · intro h
    generalize hnil : ([] : List Entry) = entries at h
    induction h with
    | nil => exact List.forall_mem_nil _
    | aside h _ ih => exact List.forall_mem_cons.2 ⟨h, ih hnil⟩
    | entry => cases hnil
  · intro h
    induction events with
    | nil => exact .nil
    | cons event events ih =>
        obtain ⟨haside, hrest⟩ := List.forall_mem_cons.1 h
        exact .aside haside (ih hrest)

/-! ## Exchanges in the log -/

/-- The event tells of the exchange of an assertion. -/
def isExchange (event : Event) : Bool :=
  event.message == "exchanging service account assertion"

/-- The entry is one of a service account that is asked for a token and can sign an assertion. -/
def Entry.signs : Entry → Bool
  | .token ⟨.serviceAccount key subject, scopes⟩ world =>
      (Assertion.sign key scopes subject world.clock).isOk
  | _ => false

/-- An event with a message for calls does not tell of something else. -/
theorem message_ne_of_isAside {event : Event} (h : event.IsAside) {message : String}
    (hmessage : message ∈ Event.callMessages) : event.message ≠ message := by
  rintro rfl
  exact h hmessage

/-- There is no exchange among events that tell of other things. -/
theorem countP_isExchange_of_isAside {events : List Event} (h : ∀ event ∈ events, event.IsAside) :
    events.countP isExchange = 0 := by
  rw [List.countP_eq_zero]
  intro event hevent
  rw [isExchange, beq_iff_eq]
  exact message_ne_of_isAside (h event hevent) (by decide)

/-- There is no exchange in a note on two keys. -/
theorem countP_isExchange_of_notes {resolver : Resolver} {note : List Event}
    (h : resolver.Notes note) : note.countP isExchange = 0 := by
  cases h <;> rfl

/-- A call tells of an exchange once if it is one that signs, and never otherwise. -/
theorem Logged.countP_isExchange {entry : Entry} {block : List Event} (h : Logged entry block) :
    block.countP isExchange = [entry].countP Entry.signs := by
  cases h with
  | @chosen resolver _ source _ _ hnote _ hsearch =>
      have hchoice : isExchange (resolver.choice source) = false := by cases source <;> rfl
      rw [List.countP_append, List.countP_cons_of_neg (by simp [hchoice]),
        countP_isExchange_of_notes hnote, countP_isExchange_of_isAside hsearch]
      rfl
  | refused hnote => exact countP_isExchange_of_notes hnote
  | @exchanged key subject scopes world assertion h =>
      have hsigns : Entry.signs (.token ⟨.serviceAccount key subject, scopes⟩ world) = true := by
        rw [Entry.signs, h.signed]
        rfl
      rw [List.countP_singleton, List.countP_singleton, hsigns]
      rfl
  | @unsigned key subject scopes world error h =>
      have hsigns : Entry.signs (.token ⟨.serviceAccount key subject, scopes⟩ world) = false := by
        rw [Entry.signs, h]
        rfl
      rw [List.countP_singleton, hsigns]
      rfl
  | @keyless credentials world h =>
      obtain ⟨identity, scopes⟩ := credentials
      cases identity with
      | serviceAccount key subject => cases h
      | machine root => rfl
      | accessToken token => rfl
  | received => rfl
  | failed => rfl
  | unprepared => rfl

/-- There are as many exchanges in the log as there are calls that sign. -/
theorem Accounts.countP_isExchange {entries : List Entry} {events : List Event}
    (h : Accounts entries events) : events.countP isExchange = entries.countP Entry.signs := by
  induction h with
  | nil => rfl
  | @aside event entries events h _ ih =>
      have hother : isExchange event = false := by
        rw [isExchange, beq_eq_false_iff_ne]
        exact message_ne_of_isAside h (by decide)
      rw [List.countP_cons_of_neg (by simp [hother]), ih]
  | @entry entry block entries events h _ ih =>
      rw [List.countP_append, h.countP_isExchange, ih, ← List.countP_append,
        List.singleton_append]

/-! ## Requests in the log -/

/-- The address that an event tells of. -/
def address? (event : Event) : Option String :=
  (event.fields.find? (·.name == "url")).map (·.value)

/-- The event tells that a request is about to be sent. -/
def TellsRequest (event : Event) : Prop :=
  event.message = "sending request"

/-- The event tells what has become of a request. -/
def TellsResult (event : Event) : Prop :=
  event.message = "response received" ∨ event.message = "request error"

/-- `Bracketed events` says that each event that tells of a request has right after it one that
tells what has become of it, with the same address, and that such events stand nowhere else. -/
inductive Bracketed : List Event → Prop where
  | nil : Bracketed []
  | other {event : Event} {events : List Event} (hrequest : ¬ TellsRequest event)
      (hresult : ¬ TellsResult event) (hrest : Bracketed events) : Bracketed (event :: events)
  | pair {request result : Event} {events : List Event} (hrequest : TellsRequest request)
      (hresult : TellsResult result) (haddress : address? result = address? request)
      (hrest : Bracketed events) : Bracketed (request :: result :: events)

/-- Brackets after brackets are brackets. -/
theorem Bracketed.append {events more : List Event} (h : Bracketed events)
    (hmore : Bracketed more) : Bracketed (events ++ more) := by
  induction h with
  | nil => exact hmore
  | other hrequest hresult _ ih => exact .other hrequest hresult ih
  | pair hrequest hresult haddress _ ih => exact .pair hrequest hresult haddress ih

/-- An event that tells of other things opens no bracket. -/
theorem Bracketed.aside {event : Event} {events : List Event} (h : event.IsAside)
    (hrest : Bracketed events) : Bracketed (event :: events) := by
  refine .other (message_ne_of_isAside h (by decide)) ?_ hrest
  rintro (hreceived | hfault)
  · exact message_ne_of_isAside h (by decide) hreceived
  · exact message_ne_of_isAside h (by decide) hfault

/-- A call brackets its events. -/
theorem Logged.bracketed {entry : Entry} {block : List Event} (h : Logged entry block) :
    Bracketed block := by
  have hnotes : ∀ {resolver : Resolver} {note : List Event}, resolver.Notes note →
      Bracketed note := by
    intro resolver note hnote
    cases hnote with
    | twofold => exact .other (by simp [TellsRequest]) (by simp [TellsResult]) .nil
    | single => exact .nil
  have hsearch : ∀ {search : List Event}, (∀ event ∈ search, event.IsAside) →
      Bracketed search := by
    intro search haside
    induction search with
    | nil => exact .nil
    | cons event search ih =>
        obtain ⟨hfirst, hrest⟩ := List.forall_mem_cons.1 haside
        exact .aside hfirst (ih hrest)
  cases h with
  | @chosen resolver _ source _ _ hnote _ haside =>
      refine (hnotes hnote).append (.other ?_ ?_ (hsearch haside))
      · cases source <;> simp [TellsRequest, Resolver.choice]
      · cases source <;> simp [TellsResult, Resolver.choice]
  | refused hnote => exact hnotes hnote
  | exchanged =>
      exact .other (by simp [TellsRequest, ServiceAccountKey.exchanging])
        (by simp [TellsResult, ServiceAccountKey.exchanging]) .nil
  | unsigned => exact .nil
  | keyless => exact .nil
  | received => exact .pair rfl (.inl rfl) rfl .nil
  | failed => exact .pair rfl (.inr rfl) rfl .nil
  | unprepared => exact .nil

/-- A log that accounts for calls brackets their events. -/
theorem Accounts.bracketed {entries : List Entry} {events : List Event}
    (h : Accounts entries events) : Bracketed events := by
  induction h with
  | nil => exact .nil
  | aside h _ ih => exact .aside h ih
  | entry h _ ih => exact h.bracketed.append ih

end Session

end CloudCredentials
