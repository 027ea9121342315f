import CloudCredentials.Proofs.Credentials.Sources

/-!
# Which source decides

`Chosen` says which source a connection takes its credentials from and what that source gives, one
rule for each case. `Acting` says what a delegate makes of it. `DecidedByOneSource` says that a
resolver follows these rules and nothing else: the source that is chosen decides alone, also where
it fails.
-/

namespace CloudCredentials

/-- A text is not empty exactly if it is there and has a character. -/
theorem nonEmpty_eq_some_iff (text : Option String) (word : String) :
    nonEmpty text = some word ↔ text = some word ∧ word ≠ "" := by
  simp [nonEmpty, Option.filter_eq_some_iff]

namespace Connection

/-- The connection has a text other than the empty one for a setting. -/
def Sets (connection : Connection) (setting : Setting) (text : String) : Prop :=
  connection.stored setting = some text ∧ text ≠ ""

/-- A setting is read as the text that the connection has for it. -/
theorem get_eq_some_iff (connection : Connection) (setting : Setting) (text : String) :
    connection.get setting = some text ↔ connection.Sets setting text :=
  nonEmpty_eq_some_iff _ _

/-- A setting is read as unset if the connection has no text for it. -/
theorem get_eq_none_iff (connection : Connection) (setting : Setting) :
    connection.get setting = none ↔ ∀ text, ¬ connection.Sets setting text := by
  simp only [Option.eq_none_iff_forall_ne_some, ne_eq, get_eq_some_iff]

/-- A setting has a text or none. -/
theorem sets_or_unset (connection : Connection) (setting : Setting) :
    (∃ text, connection.Sets setting text) ∨ ∀ text, ¬ connection.Sets setting text :=
  (Classical.em _).imp_right not_exists.1

/-- The source of a connection with a key file is chosen by the end of its path. -/
theorem source_of_keyPath {connection : Connection} {path : String}
    (h : connection.Sets .keyPath path) :
    connection.source =
      if Text.endsWith path ".json" then .ok (.keyFile path)
      else if Text.endsWith path ".p12" then .error .unsupportedKeyFormat
      else .error (.unrecognizedExtension path) := by
  rw [← get_eq_some_iff] at h
  simp only [source, keyPath, h]

/-- The source of a connection with an inline key alone is that key. -/
theorem source_of_keyData {connection : Connection} {text : String}
    (hpath : ∀ path, ¬ connection.Sets .keyPath path) (h : connection.Sets .keyData text) :
    connection.source = .ok (.keyData text) := by
  rw [← get_eq_none_iff] at hpath
  rw [← get_eq_some_iff] at h
  simp only [source, keyPath, hpath, keyData, h]

/-- The source of a connection without any key are the surroundings. -/
theorem source_of_unset {connection : Connection}
    (hpath : ∀ path, ¬ connection.Sets .keyPath path)
    (htext : ∀ text, ¬ connection.Sets .keyData text) : connection.source = .ok .ambient := by
  rw [← get_eq_none_iff] at hpath htext
  simp only [source, keyPath, hpath, keyData, htext]

end Connection

/-- `Chosen connection world outcome` says what the source gives that the settings of a connection
choose. -/
inductive Chosen (connection : Connection) (world : World) : Except Error Credentials → Prop where
  /-- A JSON key file gives its key or its own failure. -/
  | keyFile (path : String) (outcome : Except Error Credentials)
      (hpath : connection.Sets .keyPath path) (hjson : ∃ stem, path = stem ++ ".json")
      (hopened : Credentials.Opened connection.scopes
        (ServiceAccountKey.inFile world.files path) outcome) :
      Chosen connection world outcome
  /-- A key file in the legacy format is refused. -/
  | legacyKeyFile (path : String) (hpath : connection.Sets .keyPath path)
      (hjson : ¬ ∃ stem, path = stem ++ ".json") (hlegacy : ∃ stem, path = stem ++ ".p12") :
      Chosen connection world (.error .unsupportedKeyFormat)
  /-- Every other key file is refused by its name. -/
  | otherKeyFile (path : String) (hpath : connection.Sets .keyPath path)
      (hjson : ¬ ∃ stem, path = stem ++ ".json") (hlegacy : ¬ ∃ stem, path = stem ++ ".p12") :
      Chosen connection world (.error (.unrecognizedExtension path))
  /-- Without a key file, an inline key gives its key or its own failure. -/
  | keyData (text : String) (outcome : Except Error Credentials)
      (hpath : ∀ path, ¬ connection.Sets .keyPath path) (htext : connection.Sets .keyData text)
      (hopened : Credentials.Opened connection.scopes (ServiceAccountKey.ofFormText text)
        outcome) :
      Chosen connection world outcome
  /-- Without any key, the surroundings are searched. -/
  | surroundings (outcome : Except Error Credentials)
      (hpath : ∀ path, ¬ connection.Sets .keyPath path)
      (htext : ∀ text, ¬ connection.Sets .keyData text)
      (hoffered : Ambient.Offered none connection.scopes world outcome) :
      Chosen connection world outcome

/-- `Acting delegate source outcome` says what becomes of the outcome of a source when the
credentials are to act for a delegate, if there is one. -/
inductive Acting : Option String → Except Error Credentials → Except Error Credentials → Prop where
  /-- A failure stays what it is. -/
  | failed (delegate : Option String) (error : Error) :
      Acting delegate (.error error) (.error error)
  /-- Without a delegate the credentials stay what they are. -/
  | itself (found : Credentials) : Acting none (.ok found) (.ok found)
  /-- A service account acts for the delegate, with the same key and scopes. -/
  | delegated (subject : String) (key : ServiceAccountKey) (found credentials : Credentials)
      (hfound : found.key? = some key) (hkey : credentials.key? = some key)
      (hscopes : credentials.scopes = found.scopes)
      (hsubject : credentials.subject = some subject) :
      Acting (some subject) (.ok found) (.ok credentials)
  /-- The machine cannot act for a delegate. -/
  | machine (subject root : String) (scopes : List String) :
      Acting (some subject) (.ok ⟨.machine root, scopes⟩)
        (.error (.impersonationUnsupported "compute_engine"))
  /-- A token that is already there cannot act for a delegate. -/
  | accessToken (subject token : String) (scopes : List String) :
      Acting (some subject) (.ok ⟨.accessToken token, scopes⟩)
        (.error (.impersonationUnsupported "access_token"))

/-- What a source gives in a world. -/
def Gives (scopes : List String) (world : World) (outcome : Except Error Credentials) :
    CredentialSource → Prop
  | .keyFile path =>
      (ServiceAccountKey.inFile world.files path).map (Credentials.ofKey · scopes) = outcome
  | .keyData text =>
      (ServiceAccountKey.ofFormText text).map (Credentials.ofKey · scopes) = outcome
  | .ambient => Ambient.Offered none scopes world outcome

/-- What is chosen is what the source gives, or the reason why there is no source. -/
theorem chosen_iff (connection : Connection) (world : World)
    (outcome : Except Error Credentials) :
    Chosen connection world outcome ↔
      match connection.source with
      | .ok source => Gives connection.scopes world outcome source
      | .error error => outcome = .error error := by
  constructor
  · intro h
    cases h with
    | keyFile path _ hpath hjson hopened =>
        rw [Connection.source_of_keyPath hpath, if_pos ((Text.endsWith_iff _ _).2 hjson)]
        exact (Credentials.opened_iff _ _ _).1 hopened
    | legacyKeyFile path hpath hjson hlegacy =>
        rw [Connection.source_of_keyPath hpath, if_neg (mt (Text.endsWith_iff _ _).1 hjson),
          if_pos ((Text.endsWith_iff _ _).2 hlegacy)]
    | otherKeyFile path hpath hjson hlegacy =>
        rw [Connection.source_of_keyPath hpath, if_neg (mt (Text.endsWith_iff _ _).1 hjson),
          if_neg (mt (Text.endsWith_iff _ _).1 hlegacy)]
    | keyData text _ hpath htext hopened =>
        rw [Connection.source_of_keyData hpath htext]
        exact (Credentials.opened_iff _ _ _).1 hopened
    | surroundings _ hpath htext hoffered =>
        rw [Connection.source_of_unset hpath htext]
        exact hoffered
  · intro h
    rcases connection.sets_or_unset .keyPath with ⟨path, hpath⟩ | hpath
    · rw [Connection.source_of_keyPath hpath] at h
      by_cases hjson : ∃ stem, path = stem ++ ".json"
      · rw [if_pos ((Text.endsWith_iff _ _).2 hjson)] at h
        exact .keyFile path outcome hpath hjson ((Credentials.opened_iff _ _ _).2 h)
      · rw [if_neg (mt (Text.endsWith_iff _ _).1 hjson)] at h
        by_cases hlegacy : ∃ stem, path = stem ++ ".p12"
        · rw [if_pos ((Text.endsWith_iff _ _).2 hlegacy)] at h
          exact h ▸ .legacyKeyFile path hpath hjson hlegacy
        · rw [if_neg (mt (Text.endsWith_iff _ _).1 hlegacy)] at h
          exact h ▸ .otherKeyFile path hpath hjson hlegacy
    · rcases connection.sets_or_unset .keyData with ⟨text, htext⟩ | htext
      · rw [Connection.source_of_keyData hpath htext] at h
        exact .keyData text outcome hpath htext ((Credentials.opened_iff _ _ _).2 h)
      · rw [Connection.source_of_unset hpath htext] at h
        exact .surroundings outcome hpath htext h

/-- A source gives one outcome only. -/
theorem Gives.unique {scopes : List String} {world : World} {source : CredentialSource}
    {outcome other : Except Error Credentials} (h : Gives scopes world outcome source)
    (hother : Gives scopes world other source) : outcome = other := by
  cases source with
  | keyFile path => exact Eq.trans (Eq.symm h) hother
  | keyData text => exact Eq.trans (Eq.symm h) hother
  | ambient => exact Ambient.Offered.unique h hother

/-- A connection chooses one outcome only. -/
theorem Chosen.unique {connection : Connection} {world : World}
    {outcome other : Except Error Credentials} (h : Chosen connection world outcome)
    (hother : Chosen connection world other) : outcome = other := by
  rw [chosen_iff] at h hother
  cases hsource : connection.source with
  | error error =>
      rw [hsource] at h hother
      exact Eq.trans h (Eq.symm hother)
  | ok source =>
      rw [hsource] at h hother
      exact Gives.unique h hother

/-- What a source gives does not depend on the log. -/
theorem Gives.of_log {scopes : List String} {world : World} {log : List Event}
    {outcome : Except Error Credentials} {source : CredentialSource}
    (h : Gives scopes { world with log } outcome source) : Gives scopes world outcome source := by
  cases source with
  | keyFile path => exact h
  | keyData text => exact h
  | ambient => exact Ambient.Offered.of_log h

/-- The credentials, acting for the delegate if there is one. -/
def Credentials.actingFor (found : Credentials) (delegate : Option String) :
    Except Error Credentials :=
  match delegate with
  | some subject => found.withSubject subject
  | none => .ok found

/-- What the delegate makes of an outcome is what the credentials in it can do. -/
theorem acting_iff (delegate : Option String) (given outcome : Except Error Credentials) :
    Acting delegate given outcome ↔ given.bind (·.actingFor delegate) = outcome := by
  constructor
  · intro h
    cases h with
    | failed => rfl
    | itself => rfl
    | delegated subject key found credentials hfound hkey hscopes hsubject =>
        rw [Credentials.key?_eq_some_iff] at hfound hkey
        rw [hkey, hfound, hscopes, hsubject]
        rfl
    | machine => rfl
    | accessToken => rfl
  · rintro rfl
    cases given with
    | error error => exact .failed delegate error
    | ok found =>
        cases delegate with
        | none => exact .itself found
        | some subject =>
            obtain ⟨identity, scopes⟩ := found
            cases identity with
            | serviceAccount key own => exact .delegated subject key _ _ rfl rfl rfl rfl
            | machine root => exact .machine subject root scopes
            | accessToken token => exact .accessToken subject token scopes

/-- What is chosen by a key file is not changed by an inline key beside it. -/
theorem Chosen.of_keyPath {connection : Connection} {keyData : Option String} {world : World}
    {outcome : Except Error Credentials} {path : String}
    (h : Chosen { connection with storedKeyData := keyData } world outcome)
    (hpath : connection.Sets .keyPath path) : Chosen connection world outcome := by
  cases h with
  | keyFile path' _ hpath' hjson hopened => exact .keyFile path' _ hpath' hjson hopened
  | legacyKeyFile path' hpath' hjson hlegacy => exact .legacyKeyFile path' hpath' hjson hlegacy
  | otherKeyFile path' hpath' hjson hlegacy => exact .otherKeyFile path' hpath' hjson hlegacy
  | keyData text _ hno => exact absurd hpath (hno path)
  | surroundings _ hno => exact absurd hpath (hno path)

/-- Chosen credentials carry the scopes of the connection and act for themselves. -/
theorem Chosen.carried {connection : Connection} {world : World} {found : Credentials}
    (h : Chosen connection world (.ok found)) :
    found.scopes = connection.scopes ∧ found.subject = none := by
  generalize houtcome : Except.ok found = outcome at h
  cases h with
  | keyFile path _ hpath hjson hopened =>
      rw [← houtcome] at hopened
      exact hopened.carried
  | legacyKeyFile => cases houtcome
  | otherKeyFile => cases houtcome
  | keyData text _ hpath htext hopened =>
      rw [← houtcome] at hopened
      exact hopened.carried
  | surroundings _ hpath htext hoffered =>
      rw [← houtcome] at hoffered
      exact hoffered.carried

/-- Credentials that act for themselves carry their scopes over to the delegate. -/
theorem Credentials.actingFor_carried {found credentials : Credentials}
    {delegate : Option String} (hsubject : found.subject = none)
    (h : found.actingFor delegate = .ok credentials) :
    credentials.scopes = found.scopes ∧ credentials.subject = delegate := by
  cases delegate with
  | none =>
      cases h
      exact ⟨rfl, hsubject⟩
  | some subject =>
      obtain ⟨identity, scopes⟩ := found
      cases identity with
      | serviceAccount key own =>
          cases h
          exact ⟨rfl, rfl⟩
      | machine root => cases h
      | accessToken token => cases h

/-- The connection has a key file or an inline key. -/
def Connection.HasKey (connection : Connection) : Prop :=
  ∃ text, connection.Sets .keyPath text ∨ connection.Sets .keyData text

/-- A connection with a key does not choose the surroundings. -/
theorem Connection.HasKey.source_ne {connection : Connection} (h : connection.HasKey) :
    connection.source ≠ .ok .ambient := by
  obtain ⟨text, htext⟩ := h
  rcases connection.sets_or_unset .keyPath with ⟨path, hpath⟩ | hpath
  · rw [source_of_keyPath hpath]
    split
    · simp
    · split <;> simp
  · have hdata : connection.Sets .keyData text := htext.resolve_left (hpath text)
    rw [source_of_keyData hpath hdata]
    simp

namespace Resolver

/-- The events that tell that a connection has both a key file and an inline key. -/
def ambiguity (resolver : Resolver) : List Event :=
  if resolver.connection.keyPath.isSome && resolver.connection.keyData.isSome then
    [⟨.debug, .auth, "both key_path and keyfile_dict are set, using key_path",
      [.plain "conn_id" resolver.connectionId]⟩]
  else []

/-- Making credentials is choosing a source, asking it and handing over to the delegate. -/
theorem runIn_credentials (resolver : Resolver) (world : World) :
    resolver.credentials.runIn world =
      let noted := { world with log := world.log ++ resolver.ambiguity }
      match resolver.connection.source with
      | .error error => (.error error, noted)
      | .ok source =>
          let (given, after) := (resolver.fromSource source).runIn noted
          (given.bind (·.actingFor resolver.delegate), after) := by
  have hrest : ∀ noted : World,
      (do
        let source ← Action.ofExcept resolver.connection.source
        let credentials ← resolver.fromSource source
        match resolver.delegate with
          | some subject => Action.ofExcept (credentials.withSubject subject)
          | none => pure credentials : Action Credentials).runIn noted =
        match resolver.connection.source with
        | .error error => (.error error, noted)
        | .ok source =>
            let (given, after) := (resolver.fromSource source).runIn noted
            (given.bind (·.actingFor resolver.delegate), after) := by
    intro noted
    rw [Action.runIn_bind, Action.runIn_ofExcept]
    cases resolver.connection.source with
    | error error => rfl
    | ok source =>
        simp only [Action.runIn_bind]
        rcases (resolver.fromSource source).runIn noted with ⟨given, after⟩
        cases given with
        | error error => rfl
        | ok found =>
            simp only [Except.bind, Credentials.actingFor]
            cases resolver.delegate with
            | none => rfl
            | some subject => exact Action.runIn_ofExcept _ after
  rw [credentials, ambiguity]
  split
  · rw [Action.runIn_bind_of_ok (Action.runIn_report _ _ _ _ world)]
    exact hrest _
  · rw [List.append_nil]
    exact hrest world

/-- The event that tells which source is asked. -/
def choice (resolver : Resolver) : CredentialSource → Event
  | .ambient =>
      ⟨.info, .auth,
        "Getting connection using default credentials since no key file is defined for hook.",
        [.plain "conn_id" resolver.connectionId]⟩
  | .keyFile path =>
      ⟨.debug, .auth, "Getting connection using JSON key file",
        [.plain "conn_id" resolver.connectionId, .plain "path" path]⟩
  | .keyData _ =>
      ⟨.debug, .auth, "Getting connection using JSON key data from the connection",
        [.plain "conn_id" resolver.connectionId]⟩

/-- The network after a source has been asked. Only the surroundings are found out about over the
network. -/
def asked (world : World) : CredentialSource → Http.Network
  | .ambient => Ambient.searched none world
  | _ => world.network

/-- Asking a source gives what `Gives` says. What a resolver is told about the surroundings matters
to the surroundings alone. -/
theorem runIn_fromSource (resolver : Resolver) (source : CredentialSource) (world : World)
    (h : resolver.ambient = .surroundings ∨ source ≠ .ambient) :
    ∃ given events, Gives resolver.connection.scopes world given source ∧
      (resolver.fromSource source).runIn world =
        (given,
          { world with
            network := asked world source
            log := world.log ++ resolver.choice source :: events }) := by
  cases source with
  | ambient =>
      have hambient : resolver.ambient = .surroundings := h.resolve_right fun hne => hne rfl
      obtain ⟨given, events, hoffered, hrun⟩ := Ambient.runIn_discover none
        resolver.connection.scopes { world with log := world.log ++ [resolver.choice .ambient] }
      refine ⟨given, events, Ambient.Offered.of_log hoffered, ?_⟩
      rw [fromSource, hambient]
      simp only [AmbientSource.discover]
      rw [Action.runIn_bind_of_ok (Action.runIn_report _ _ _ _ world)]
      refine hrun.trans ?_
      rw [List.append_assoc]
      rfl
  | keyFile path =>
      refine ⟨_, [], rfl, ?_⟩
      rw [fromSource, Action.runIn_bind_of_ok (Action.runIn_report _ _ _ _ world),
        Action.runIn_bind, ServiceAccountKey.runIn_ofFile]
      cases ServiceAccountKey.inFile world.files path with
      | error error => rfl
      | ok key => rfl
  | keyData text =>
      refine ⟨_, [], rfl, ?_⟩
      rw [fromSource, Action.runIn_bind_of_ok (Action.runIn_report _ _ _ _ world),
        Action.runIn_bind, Action.runIn_ofExcept]
      cases ServiceAccountKey.ofFormText text with
      | error error => rfl
      | ok key => rfl

/-- The network after the source that a connection chooses has been asked. -/
def askedFor (connection : Connection) (world : World) : Http.Network :=
  match connection.source with
  | .ok source => asked world source
  | .error _ => world.network

/-- Making credentials gives what the connection chooses, acting for the delegate, and touches the
network and the log alone. -/
theorem runIn_credentials_chosen (resolver : Resolver) (world : World)
    (h : resolver.ambient = .surroundings ∨ resolver.connection.source ≠ .ok .ambient) :
    ∃ given events, Chosen resolver.connection world given ∧
      resolver.credentials.runIn world =
        (given.bind (·.actingFor resolver.delegate),
          { world with
            network := askedFor resolver.connection world
            log := world.log ++ events }) := by
  rw [runIn_credentials, askedFor]
  simp only [chosen_iff]
  cases hsource : resolver.connection.source with
  | error error => exact ⟨.error error, resolver.ambiguity, rfl, rfl⟩
  | ok source =>
      have hambient : resolver.ambient = .surroundings ∨ source ≠ .ambient := by
        refine h.imp_right fun hne heq => hne ?_
        rw [hsource, heq]
      obtain ⟨given, events, hgives, hrun⟩ := runIn_fromSource resolver source
        { world with log := world.log ++ resolver.ambiguity } hambient
      refine ⟨given, resolver.ambiguity ++ resolver.choice source :: events,
        Gives.of_log hgives, ?_⟩
      simp only [hrun, List.append_assoc]
      cases source <;> rfl

/-- Asking the source that a connection chooses lets the network see one probe at most. -/
theorem probing_askedFor (connection : Connection) (world : World) :
    ∃ probed, Ambient.Probing world.network (askedFor connection world) probed
      (Ambient.metadataRoot none world.environment) := by
  rw [askedFor]
  split
  · next source _ =>
      cases source with
      | ambient => exact Ambient.probing_searched none world
      | keyFile path => exact ⟨[], Ambient.probing_refl _ _⟩
      | keyData text => exact ⟨[], Ambient.probing_refl _ _⟩
  · exact ⟨[], Ambient.probing_refl _ _⟩

/-- Credentials that a connection chooses carry its scopes and act for the delegate. -/
theorem carried_of_chosen {resolver : Resolver} {world : World}
    {given : Except Error Credentials} {credentials : Credentials}
    (h : Chosen resolver.connection world given)
    (hacting : given.bind (·.actingFor resolver.delegate) = .ok credentials) :
    credentials.scopes = resolver.connection.scopes ∧ credentials.subject = resolver.delegate := by
  cases given with
  | error error => cases hacting
  | ok found =>
      obtain ⟨hscopes, hsubject⟩ := h.carried
      rw [← hscopes]
      exact Credentials.actingFor_carried hsubject hacting

/-- Where a JSON key file is chosen, with a delegate or without, a failure is that of the file: a
key always acts for the delegate. -/
theorem noKeyFile_of_chosen {connection : Connection} {world : World}
    {given : Except Error Credentials} {path : String} {delegate : Option String} {error : Error}
    (h : Chosen connection world given) (hpath : connection.Sets .keyPath path)
    (hjson : ∃ stem, path = stem ++ ".json")
    (herror : given.bind (·.actingFor delegate) = .error error) :
    ServiceAccountKey.NoKeyFile path error := by
  rw [h.unique (.keyFile path _ hpath hjson ((Credentials.opened_iff _ _ _).2 rfl))] at herror
  cases hkey : ServiceAccountKey.inFile world.files path with
  | error fault =>
      rw [hkey] at herror
      cases herror
      exact ServiceAccountKey.inFile_error hkey
  | ok key =>
      rw [hkey] at herror
      cases delegate with
      | none => cases herror
      | some subject => cases herror

/-- Nothing is found out over the network for a connection with a key. -/
theorem askedFor_of_hasKey {connection : Connection} (h : connection.HasKey) (world : World) :
    askedFor connection world = world.network := by
  unfold askedFor
  split
  · next source hsource =>
      cases source with
      | ambient => exact absurd hsource h.source_ne
      | keyFile path => rfl
      | keyData text => rfl
  · rfl

/-- Where a resolver looks for surroundings does not matter to a connection with a key. -/
theorem runIn_credentials_of_hasKey (resolver : Resolver) (h : resolver.connection.HasKey)
    (ambient : AmbientSource) (world : World) :
    { resolver with ambient }.credentials.runIn world = resolver.credentials.runIn world := by
  rw [runIn_credentials, runIn_credentials]
  cases hsource : resolver.connection.source with
  | error error => rfl
  | ok source =>
      cases source with
      | ambient => exact absurd hsource h.source_ne
      | keyFile path => rfl
      | keyData text => rfl

/-- The resolver with another inline key. -/
def withKeyData (resolver : Resolver) (keyData : Option String) : Resolver :=
  { resolver with connection := { resolver.connection with storedKeyData := keyData } }

/-- `DecidedByOneSource resolver connection delegate world` says that one source of the connection
decides what the resolver makes for the delegate: `outcome_iff` says which one and what comes of it,
and the other fields say that no other source has a part in it. -/
structure DecidedByOneSource (resolver : Resolver) (connection : Connection)
    (delegate : Option String) (world : World) : Prop where
  /-- The outcome is that of the source that the connection chooses, handed to the delegate. -/
  outcome_iff (outcome : Except Error Credentials) :
    (resolver.credentials.runIn world).1 = outcome ↔
      ∃ given, Chosen connection world given ∧ Acting delegate given outcome
  /-- An inline key beside a key file is not looked at. -/
  keyData_unused (path : String) (hpath : connection.Sets .keyPath path)
    (keyData : Option String) :
    ((resolver.withKeyData keyData).credentials.runIn world).1 =
      (resolver.credentials.runIn world).1
  /-- The surroundings are not searched where the connection has a key, also if it is no good. -/
  ambient_unused (hkey : connection.HasKey) (ambient : AmbientSource) :
    { resolver with ambient }.credentials.runIn world = resolver.credentials.runIn world
  /-- Nothing is found out over the network where the connection has a key. -/
  network_untouched (hkey : connection.HasKey) :
    (resolver.credentials.runIn world).2.network = world.network
  /-- A JSON key file fails because it cannot be read, with its path, or because of its text. -/
  keyFile_error (path : String) (hpath : connection.Sets .keyPath path)
    (hjson : ∃ stem, path = stem ++ ".json") (error : Error)
    (herror : (resolver.credentials.runIn world).1 = .error error) :
    ServiceAccountKey.NoKeyFile path error
  /-- The credentials carry the scopes of the connection and act for the delegate. -/
  carried (credentials : Credentials)
    (hcredentials : (resolver.credentials.runIn world).1 = .ok credentials) :
    credentials.scopes = connection.scopes ∧ credentials.subject = delegate

/-- What a resolver with the usual surroundings makes is decided by one source, in every world. -/
theorem ofConnection_decides (options : ResolverOptions) (connection : Connection)
    (world : World) :
    (ofConnection { options with ambient := none } connection).DecidedByOneSource connection
      options.delegate world := by
  have hdelegate : (ofConnection { options with ambient := none } connection).delegate =
      options.delegate := rfl
  have hconnection : (ofConnection { options with ambient := none } connection).connection =
      connection := rfl
  have hambient : (ofConnection { options with ambient := none } connection).ambient =
      .surroundings := rfl
  generalize ofConnection { options with ambient := none } connection = resolver at *
  subst hconnection
  rw [← hdelegate]
  obtain ⟨given, events, hchosen, hrun⟩ := resolver.runIn_credentials_chosen world (.inl hambient)
  constructor
  case outcome_iff =>
    intro outcome
    rw [hrun]
    constructor
    · intro h
      exact ⟨given, hchosen, (acting_iff _ _ _).2 h⟩
    · rintro ⟨other, hother, hacting⟩
      rw [hchosen.unique hother]
      exact (acting_iff _ _ _).1 hacting
  case keyData_unused =>
    intro path hpath keyData
    obtain ⟨other, _, hother, hrun'⟩ :=
      (resolver.withKeyData keyData).runIn_credentials_chosen world (.inl hambient)
    -- With the key file, both connections choose the same.
    rw [hrun, hrun', hchosen.unique (hother.of_keyPath hpath)]
    rfl
  case ambient_unused =>
    intro hkey ambient
    exact resolver.runIn_credentials_of_hasKey hkey ambient world
  case network_untouched =>
    intro hkey
    rw [hrun]
    exact askedFor_of_hasKey hkey world
  case keyFile_error =>
    intro path hpath hjson error herror
    rw [hrun] at herror
    exact noKeyFile_of_chosen hchosen hpath hjson herror
  case carried =>
    intro credentials hcredentials
    rw [hrun] at hcredentials
    exact carried_of_chosen hchosen hcredentials

end Resolver

end CloudCredentials
