import CloudCredentials.Proofs.Session.Accounts
import CloudCredentials.Proofs.Session.Moments

/-!
# What sessions log

Every action of the library adds to the log what accounts for the calls that it makes, `Records`.
There is one lemma for each way to build an action, and from these one for each action of the
library and for each operation of a session. `log_accounts` says that the log of a session accounts
for its ledger.
-/

namespace CloudCredentials.Session

/-- `Recorded before after entries` says that from one world to the other events have been added to
the log that account for the entries. -/
def Recorded (before after : World) (entries : List Entry) : Prop :=
  ∃ events, after.log = before.log ++ events ∧ Accounts entries events

/-- Where the log stays there are no entries. -/
theorem recorded_of_log_eq {before after : World} (h : after.log = before.log) :
    Recorded before after [] :=
  ⟨[], by rw [h, List.append_nil], .nil⟩

/-- An event that tells of other things makes no entry. -/
theorem recorded_of_aside {before after : World} {event : Event}
    (hlog : after.log = before.log ++ [event]) (h : event.IsAside) : Recorded before after [] :=
  ⟨[event], hlog, .aside h .nil⟩

/-- What is recorded from one world to a second and from there to a third is recorded in all. -/
theorem Recorded.trans {before between after : World} {entries more : List Entry}
    (h : Recorded before between entries) (hmore : Recorded between after more) :
    Recorded before after (entries ++ more) := by
  obtain ⟨events, hlog, haccounts⟩ := h
  obtain ⟨others, hothers, hrest⟩ := hmore
  exact ⟨events ++ others, by rw [hothers, hlog, List.append_assoc], haccounts.append hrest⟩

/-- `Records action entries` says that an action adds to the log of every world what accounts for
its entries there. -/
def Records {α : Type} (action : Action α) (entries : World → List Entry) : Prop :=
  ∀ world, Recorded world (action.runIn world).2 (entries world)

variable {α β : Type}

/-! ## Building actions -/

/-- A result makes no entry. -/
theorem records_pure (value : α) : Records (pure value) noEntries :=
  fun _ => recorded_of_log_eq rfl

/-- An error makes no entry. -/
theorem records_throw (error : Error) : Records (throw error : Action α) noEntries :=
  fun _ => recorded_of_log_eq rfl

/-- An outcome makes no entry. -/
theorem records_ofExcept (outcome : Except Error α) :
    Records (Action.ofExcept outcome) noEntries := by
  intro world
  rw [Action.runIn_ofExcept]
  exact recorded_of_log_eq rfl

/-- Looking at the world makes no entry. -/
theorem records_ask (view : World → α) : Records (Action.ask view) noEntries :=
  fun _ => recorded_of_log_eq rfl

/-- A request makes no entry. -/
theorem records_send (request : Http.Request) : Records (Action.send request) noEntries :=
  fun _ => recorded_of_log_eq rfl

/-- An event makes no entry if it tells of other things. -/
theorem records_report {message : String} (h : message ∉ Event.callMessages) (level : Level)
    (speaker : Speaker) (fields : List LogField) :
    Records (Action.report level speaker message fields) noEntries :=
  fun _ => recorded_of_aside rfl h

/-- Actions one after the other make their entries one after the other. -/
theorem Records.bind {action : Action α} {next : α → Action β} {entries : World → List Entry}
    {nextEntries : α → World → List Entry} (h : Records action entries)
    (hnext : ∀ value, Records (next value) (nextEntries value)) :
    Records (action >>= next) (andThen entries action nextEntries) := by
  intro world
  have hfirst := h world
  rw [Action.runIn_bind, andThen]
  rcases hrun : action.runIn world with ⟨outcome, between⟩
  rw [hrun] at hfirst
  cases outcome with
  | error error =>
      rw [List.append_nil]
      exact hfirst
  | ok value => exact hfirst.trans (hnext value between)

/-- What comes after an action without making entries leaves it with its own. -/
theorem Records.bind_last {action : Action α} {next : α → Action β} {entries : World → List Entry}
    (h : Records action entries) (hnext : ∀ value, Records (next value) noEntries) :
    Records (action >>= next) entries := by
  have hbind := h.bind hnext
  rwa [andThen_last] at hbind

/-- Actions are built in ways that make no entries, as long as no event tells of a call. -/
theorem closed_records :
    Action.Closed (fun _ action => Records action noEntries) (· ∉ Event.callMessages) where
  of_pure := records_pure
  of_throw := records_throw
  of_ofExcept := records_ofExcept
  of_ask := records_ask
  of_send := records_send
  of_report := records_report
  of_bind := Records.bind_last

/-- A search of the surroundings tells of no call. -/
theorem ambient_messages : ∀ message ∈ Ambient.messages, message ∉ Event.callMessages := by
  decide

/-- A registry tells of no call. -/
theorem registry_messages : ∀ message ∈ Registry.messages, message ∉ Event.callMessages := by
  decide

/-- After an event comes what tells of other things, if what comes after it makes no entry. -/
theorem log_report_bind {next : Unit → Action α} (h : Records (next ()) noEntries) (event : Event)
    (world : World) :
    ∃ search : List Event, (∀ other ∈ search, other.IsAside) ∧
      ((Action.report event.level event.speaker event.message event.fields >>= next).runIn
        world).2.log = world.log ++ event :: search := by
  obtain ⟨search, hlog, haccounts⟩ := h { world with log := world.log ++ [event] }
  refine ⟨search, (accounts_nil_iff search).1 haccounts, ?_⟩
  rw [Action.runIn_bind_of_ok (Action.runIn_report _ _ _ _ world)]
  exact hlog.trans (List.append_assoc _ _ _)

/-! ## Guards -/

/-- Acquiring a guard makes no entry. -/
theorem recorded_of_acquired {connection : Connection} {world after : World}
    {outcome : Except Error Guard} (h : Guard.Acquired connection world outcome after) :
    Recorded world after [] := by
  have hexport : ∀ path, (Guard.exporting path).IsAside := by
    intro path
    show "exporting " ++ keyFileVariable ∉ Event.callMessages
    decide
  cases h with
  | nothing => exact recorded_of_log_eq rfl
  | keyFile path => exact recorded_of_aside rfl (hexport path)
  | legacy => exact recorded_of_log_eq rfl
  | rejected path => exact recorded_of_aside rfl (hexport path)
  | keyData text path => exact recorded_of_aside rfl (hexport path)
  | unmade => exact recorded_of_log_eq rfl

/-! ## Credentials and tokens -/

/-- Naming a source and asking it logs the choice and what the source tells. -/
theorem log_fromSource (resolver : Resolver) (source : CredentialSource) (world : World) :
    ∃ search : List Event, (∀ other ∈ search, other.IsAside) ∧
      ((resolver.fromSource source).runIn world).2.log =
        world.log ++ resolver.choice source :: search := by
  cases source with
  | ambient =>
      exact log_report_bind (closed_records.ambient ambient_messages resolver.ambient _)
        (resolver.choice .ambient) world
  | keyFile path =>
      exact log_report_bind ((closed_records.ofFile path).bind_last fun _ => records_pure _)
        (resolver.choice (.keyFile path)) world
  | keyData text =>
      exact log_report_bind ((records_ofExcept _).bind_last fun _ => records_pure _)
        (resolver.choice (.keyData text)) world

/-- Making credentials makes an entry. -/
theorem records_credentials (resolver : Resolver) :
    Records resolver.credentials (credentialsEntries resolver) := by
  intro world
  have hnote := resolver.notes_ambiguity
  rw [Resolver.runIn_credentials]
  cases hsource : resolver.connection.source with
  | error error => exact ⟨resolver.ambiguity, rfl, (Logged.refused hnote hsource).accounts⟩
  | ok source =>
      obtain ⟨search, haside, hlog⟩ := log_fromSource resolver source
        { world with log := world.log ++ resolver.ambiguity }
      exact ⟨resolver.ambiguity ++ resolver.choice source :: search,
        hlog.trans (List.append_assoc _ _ _), (Logged.chosen hnote hsource haside).accounts⟩

/-- Fetching a token makes an entry. -/
theorem records_token (credentials : Credentials) :
    Records credentials.token (tokenEntries credentials) := by
  intro world
  obtain ⟨identity, scopes⟩ := credentials
  cases identity with
  | serviceAccount key subject =>
      show Recorded world ((key.fetchToken scopes subject).runIn world).2 _
      cases hsign : Assertion.sign key scopes subject world.clock with
      | error error =>
          rw [ServiceAccountKey.runIn_fetchToken_of_unsigned hsign]
          exact ⟨[], (List.append_nil _).symm, (Logged.unsigned hsign).accounts⟩
      | ok assertion =>
          rw [ServiceAccountKey.runIn_fetchToken_of_signed hsign]
          exact ⟨[key.exchanging], rfl,
            (Logged.exchanged (ServiceAccountKey.announces_of_sign hsign)).accounts⟩
  | machine root =>
      show Recorded world ((Credentials.fetchMetadataToken root scopes).runIn world).2 _
      rw [Credentials.runIn_fetchMetadataToken]
      exact ⟨[], (List.append_nil _).symm, (Logged.keyless rfl).accounts⟩
  | accessToken token => exact ⟨[], (List.append_nil _).symm, (Logged.keyless rfl).accounts⟩

/-! ## Clients -/

/-- A decoration makes the entries of its provider. -/
theorem records_apply (headers : Http.Headers) (decoration : Decoration) :
    Records (decoration.apply headers) (decorationEntries decoration) := by
  cases decoration with
  | userAgent product => exact records_ofExcept _
  | bearer provider =>
      refine Records.bind_last ?_ fun _ => records_ofExcept _
      cases provider with
      | fixed token => exact records_pure token
      | failing error => exact records_throw error
      | credentials held => exact records_token held

/-- Decorations make their entries in order, up to the first that fails. -/
theorem records_prepareHeaders (client : Client) (headers : Http.Headers) :
    Records (client.prepareHeaders headers) (chainEntries client.decorations headers) := by
  obtain ⟨decorations⟩ := client
  induction decorations generalizing headers with
  | nil => exact records_pure headers
  | cons decoration decorations ih => exact (records_apply headers decoration).bind ih

/-- A call on a client makes an entry after those of the decorations. -/
theorem records_perform (client : Client) (call : Client.Call) :
    Records (call.perform client) (callEntries client call) := by
  intro world
  have hchain := records_prepareHeaders client call.stated.headers world
  have hrun := Client.runIn_perform client call world
  rw [callEntries]
  rcases hprepared : (client.prepareHeaders call.stated.headers).runIn world with ⟨outcome, after⟩
  rw [hprepared] at hchain hrun
  refine hchain.trans ?_
  cases outcome with
  | error error =>
      have hlogged : Logged (.request client call world) [] :=
        .unprepared (congrArg Prod.fst hprepared) (congrArg Prod.fst hrun)
      exact ⟨[], by rw [hrun, List.append_nil], hlogged.accounts⟩
  | ok headers =>
      have hcalled : (call.perform client).runIn world =
          (Client.told (after.network.send (call.stated.withHeaders headers)).1,
            Client.afterCalling after (call.stated.withHeaders headers)) := hrun
      have hlog : ((call.perform client).runIn world).2.log = after.log ++
          [Client.sending call.stated, Client.sent call.stated
            (after.network.send (call.stated.withHeaders headers)).1] := by
        rw [hcalled]
        rfl
      have hfirst := congrArg Prod.fst hprepared
      cases hsent : (after.network.send (call.stated.withHeaders headers)).1 with
      | error fault =>
          rw [hsent] at hcalled hlog
          exact ⟨_, hlog, (Logged.failed hfirst (congrArg Prod.fst hcalled)).accounts⟩
      | ok response =>
          rw [hsent] at hcalled hlog
          exact ⟨_, hlog, (Logged.received hfirst (congrArg Prod.fst hcalled)).accounts⟩

/-! ## Operations -/

/-- An action that is performed makes its entries. -/
theorem recorded_perform (state : State) {action : Action α} {entries : World → List Entry}
    (h : Records action entries) (finish : Objects → α → Answer × Objects) :
    Recorded state.world (state.perform action finish).2.world (entries state.world) := by
  rw [state.world_perform action finish]
  exact h state.world

/-- What is done with an object makes the entries of the object. Without it nothing is done. -/
theorem recorded_withObject (state : State) (object : Option α) {use : α → Effect}
    {entries : α → World → List Entry}
    (h : ∀ found, Recorded state.world (use found).2.world (entries found state.world)) :
    Recorded state.world (withObject state object use).2.world
      (objectEntries object entries state.world) := by
  cases object with
  | some found => exact h found
  | none => exact recorded_of_log_eq rfl

/-- Asking a resolver makes the entries of what it is asked for. -/
theorem recorded_useResolver (state : State) (resolver : Resolver) (use : ResolverUse) :
    Recorded state.world (state.useResolver resolver use).2.world
      (resolverUseEntries resolver use state.world) := by
  cases use with
  | credentials keepAs => exact recorded_perform state (records_credentials resolver) _
  | accessToken =>
      exact recorded_perform state ((records_credentials resolver).bind records_token) _
  | client keepAs =>
      exact recorded_perform state
        ((records_credentials resolver).bind_last fun _ => records_pure _) _
  | field name default => exact recorded_of_log_eq rfl
  | connection => exact recorded_of_log_eq rfl
  | shown => exact recorded_of_log_eq rfl
  | withProject parameters failure =>
      refine recorded_perform state
        (closed_records.withChosenProject _ parameters fun parameters => ?_) _
      exact closed_handBack closed_records failure parameters
  | withProjectArguments call failure =>
      refine recorded_perform state
        (closed_records.withChosenProjectArguments _ call fun call => ?_) _
      exact closed_handBack closed_records failure call

/-- Releasing a guard leaves the log as it is. -/
theorem log_releaseIn (guard : Guard) (world : World) :
    (guard.releaseIn world).log = world.log := by
  rw [Guard.releaseIn]
  split <;> rfl

/-- An operation makes its entries. -/
theorem recorded_effect (state : State) (operation : Operation) :
    Recorded state.world (operation.effect state).2.world
      (operation.entries state state.world) := by
  cases operation with
  | setVariable name value => exact recorded_of_log_eq rfl
  | readVariable name => exact recorded_of_log_eq rfl
  | setNode path node => cases node <;> exact recorded_of_log_eq rfl
  | addReplies replies => exact recorded_of_log_eq rfl
  | insertConnection identifier connection => exact recorded_of_log_eq rfl
  | findConnection registry identifier =>
      exact recorded_perform state (closed_records.find registry_messages _ identifier) _
  | makeResolver name connection options =>
      refine recorded_perform state ?_ _
      cases connection with
      | given connection => exact records_pure _
      | found registry => exact closed_records.ofRegistry registry_messages options _
  | useResolver name use =>
      exact recorded_withObject state _ fun resolver => recorded_useResolver state resolver use
  | makeCredentials name plan =>
      exact recorded_perform state (closed_credentialsOf closed_records ambient_messages plan) _
  | useCredentials name use =>
      refine recorded_withObject state _ fun credentials => ?_
      cases use with
      | withSubject subject keepAs => exact recorded_perform state (records_ofExcept _) _
      | token => exact recorded_perform state (records_token credentials) _
      | description => exact recorded_of_log_eq rfl
      | shown => exact recorded_of_log_eq rfl
  | makeClient name plan =>
      show Recorded state.world (state.makeClient name plan).2.world []
      rw [State.makeClient]
      cases state.client? plan with
      | none => exact recorded_of_log_eq rfl
      | some client => exact recorded_of_log_eq rfl
  | useClient name use =>
      refine recorded_withObject state _ fun client => ?_
      cases use with
      | headers headers => exact recorded_perform state (records_prepareHeaders client headers) _
      | request method address headers body =>
          exact recorded_perform state
            (records_perform client (.request method address headers body)) _
  | acquireGuard name connection =>
      have hacquired := recorded_of_acquired (Guard.acquired_acquire connection state.world)
      show Recorded state.world (state.acquireGuard name connection).2.world []
      rw [State.acquireGuard]
      rcases hrun : (Guard.acquire connection).runIn state.world with ⟨outcome, after⟩
      rw [hrun] at hacquired
      cases outcome with
      | error error => exact hacquired
      | ok guard =>
          simp only
          cases state.objects.guards.find? name with
          | some replaced =>
              exact hacquired.trans (recorded_of_log_eq (log_releaseIn replaced after))
          | none => exact hacquired
  | releaseGuard name =>
      show Recorded state.world (withObject state (state.objects.guards.find? name) fun guard =>
        state.releaseGuard name guard).2.world []
      cases state.objects.guards.find? name with
      | some guard => exact recorded_of_log_eq (log_releaseIn guard state.world)
      | none => exact recorded_of_log_eq rfl

/-! ## Steps -/

mutual

/-- A step makes its entries. -/
theorem recorded_runStep (state : State) :
    ∀ step : Step, Recorded state.world (runStep state step).2.world (stepEntries state step)
  | .operation operation => recorded_effect state operation
  | .withCredentialFile source steps failure => by
      rw [stepEntries]
      cases hsource : state.connection? source with
      | none =>
          rw [snd_runStep_of_none hsource]
          exact recorded_of_log_eq rfl
      | some connection =>
          have hacquired := recorded_of_acquired (Guard.acquired_acquire connection state.world)
          rw [snd_runStep_withCredentialFile hsource, afterNested]
          dsimp only
          rcases hrun : (Guard.acquire connection).runIn state.world with ⟨outcome, opened⟩
          rw [hrun] at hacquired
          cases outcome with
          | error error => exact hacquired
          | ok guard =>
              have hnested := recorded_runSteps ⟨opened, state.objects⟩ steps
              have hreleased := recorded_of_log_eq
                (log_releaseIn guard (runSteps ⟨opened, state.objects⟩ steps).2.world)
              have hall := hacquired.trans (hnested.trans hreleased)
              rwa [List.append_nil] at hall

/-- Steps make their entries in order. -/
theorem recorded_runSteps (state : State) :
    ∀ steps : List Step,
      Recorded state.world (runSteps state steps).2.world (stepsEntries state steps)
  | [] => recorded_of_log_eq rfl
  | step :: steps => by
      have hfirst := recorded_runStep state step
      rw [runSteps, stepsEntries]
      rcases hstep : runStep state step with ⟨report, next⟩
      rw [hstep] at hfirst
      cases report with
      | none =>
          rw [List.append_nil]
          exact hfirst
      | some report => exact hfirst.trans (recorded_runSteps next steps)

end

/-- Whatever steps add to the log accounts for their ledger. Each time a resolver is asked for
credentials, the log notes two keys if there are two, names the source if there is one, and then
tells of other things. There are as many exchanges in the log as service accounts have signed
assertions for a token, and each is told of before its assertion is posted. Each event that tells of
a request has right after it the one that tells what has become of it, which is the response that
the call returns or the fault that it fails with. A call without good headers tells of neither. -/
theorem log_accounts (state : State) (steps : List Step) :
    ∃ events, (runSteps state steps).2.world.log = state.world.log ++ events ∧
      Accounts (stepsEntries state steps) events ∧
      events.countP isExchange = (stepsEntries state steps).countP Entry.signs ∧
      Bracketed events := by
  obtain ⟨events, hlog, haccounts⟩ := recorded_runSteps state steps
  exact ⟨events, hlog, haccounts, haccounts.countP_isExchange, haccounts.bracketed⟩

/-- A connection with two keys and a request that no server answers. -/
example :
    let world : World := ⟨[], .initial, 0, ⟨false, [], [], .ignored⟩, []⟩
    let steps : List Step :=
      [.operation (.makeResolver "r" (.given ⟨some "a.json", some "b", none, none⟩)
        ⟨none, none, none, none⟩),
      .operation (.useResolver "r" .accessToken),
      .operation (.makeClient "c" (.usual (.fixed "t") "agent")),
      .operation (.useClient "c" (.request "GET" "http://host/" [] none))]
    (run world steps).2.log.map Event.message =
      ["both key_path and keyfile_dict are set, using key_path",
        "Getting connection using JSON key file", "sending request", "request error"] := by
  decide +kernel

end CloudCredentials.Session
