import CloudCredentials.Proofs.Credentials.Slashes
import CloudCredentials.Proofs.Http.Recording
import CloudCredentials.Resolver

/-!
# What the sources of credentials offer

A connection takes its credentials from a key file, from an inline key or from its surroundings.
`inFile` is what a key file offers, as a function of the files alone, and `Opened` says what becomes
of it. `Offered` says what the surroundings offer, one rule for each way the search can end, and
`runIn_discover` says that the search ends in that way.
-/

namespace CloudCredentials

namespace ServiceAccountKey

/-- The key in a file of a file system. -/
def inFile (files : FileSystem) (path : String) : Except Error ServiceAccountKey :=
  match files.readText path with
  | .error fault => .error (.keyFileRead path fault)
  | .ok text => ofJson text

/-- Reading a key file changes nothing and depends on the files alone. -/
@[simp] theorem runIn_ofFile (path : String) (world : World) :
    (ofFile path).runIn world = (inFile world.files path, world) := by
  rw [ofFile, Action.runIn_bind_of_ok (Action.runIn_get world), inFile]
  cases world.files.readText path with
  | error fault => rfl
  | ok text => exact Action.runIn_ofExcept (ofJson text) world

/-- The errors that tell that a text holds no key. -/
inductive NoKey : Error → Prop where
  | unreadable (detail : Detail) : NoKey (.invalidKeyJson detail)
  | malformed (fault : KeyFault) : NoKey (.malformedServiceAccount fault)

/-- A text is refused as a key with one of the two errors that say so. -/
theorem readWith_error {change : Json.Value → Json.Value} {text : String} {error : Error}
    (h : readWith change text = .error error) : NoKey error := by
  unfold readWith at h
  split at h
  · cases h
    exact .unreadable _
  · split at h
    · cases h
    · cases h
      exact .malformed _

/-- The errors that tell that the file at a path gives no key. -/
inductive NoKeyFile (path : String) : Error → Prop where
  | unread (fault : FileFault) : NoKeyFile path (.keyFileRead path fault)
  | noKey (error : Error) (h : NoKey error) : NoKeyFile path error

/-- A key file is refused because it cannot be read, with its path, or because of its text. -/
theorem inFile_error {files : FileSystem} {path : String} {error : Error}
    (h : inFile files path = .error error) : NoKeyFile path error := by
  unfold inFile at h
  split at h
  · cases h
    exact .unread _
  · exact .noKey _ (readWith_error h)

end ServiceAccountKey

namespace Credentials

/-- Credentials with a key are those of a service account. -/
theorem key?_eq_some_iff (credentials : Credentials) (key : ServiceAccountKey) :
    credentials.key? = some key ↔
      credentials = ⟨.serviceAccount key credentials.subject, credentials.scopes⟩ := by
  obtain ⟨identity, scopes⟩ := credentials
  cases identity <;> simp [key?, subject]

/-- `Holds credentials key scopes` says that credentials are those of a key, carry the scopes and act
for themselves. -/
structure Holds (credentials : Credentials) (key : ServiceAccountKey) (scopes : List String) :
    Prop where
  key_eq : credentials.key? = some key
  scopes_eq : credentials.scopes = scopes
  subject_eq : credentials.subject = none

/-- Which credentials hold a key is known from the key and the scopes. -/
theorem holds_iff (credentials : Credentials) (key : ServiceAccountKey) (scopes : List String) :
    Holds credentials key scopes ↔ credentials = ofKey key scopes := by
  constructor
  · rintro ⟨hkey, hscopes, hsubject⟩
    rwa [key?_eq_some_iff, hsubject, hscopes] at hkey
  · rintro rfl
    exact ⟨rfl, rfl, rfl⟩

/-- `Opened scopes read outcome` says what becomes of a key that has been read, or of the failure to
read one, when credentials are made of it. -/
inductive Opened (scopes : List String) :
    Except Error ServiceAccountKey → Except Error Credentials → Prop where
  /-- A failure stays what it is. -/
  | failed (error : Error) : Opened scopes (.error error) (.error error)
  /-- The credentials hold the key. -/
  | opened (key : ServiceAccountKey) (found : Credentials) (h : found.Holds key scopes) :
      Opened scopes (.ok key) (.ok found)

/-- What becomes of a key are the credentials of that key. -/
theorem opened_iff (scopes : List String) (read : Except Error ServiceAccountKey)
    (outcome : Except Error Credentials) :
    Opened scopes read outcome ↔ read.map (ofKey · scopes) = outcome := by
  constructor
  · intro h
    cases h with
    | failed error => rfl
    | opened key found hholds =>
        rw [(holds_iff found key scopes).1 hholds]
        rfl
  · rintro rfl
    cases read with
    | error error => exact .failed error
    | ok key => exact .opened key _ ((holds_iff _ key scopes).2 rfl)

/-- Credentials that are made of a key carry the scopes and act for themselves. -/
theorem Opened.carried {scopes : List String} {read : Except Error ServiceAccountKey}
    {credentials : Credentials} (h : Opened scopes read (.ok credentials)) :
    credentials.scopes = scopes ∧ credentials.subject = none := by
  cases h with
  | opened key _ hholds => exact ⟨hholds.scopes_eq, hholds.subject_eq⟩

end Credentials

namespace Ambient

/-- The environment names a key file. -/
def NamesKeyFile (environment : Environment) (path : String) : Prop :=
  environment.text? "GOOGLE_APPLICATION_CREDENTIALS" = some path ∧ path ≠ ""

/-- A request for the page at a root, by a client of metadata servers. -/
def rootPage (root : String) : Http.Request :=
  ⟨"GET", root ++ "/", [], [⟨"metadata-flavor", Bytes.ofText "Google", false⟩], none⟩

/-- The response has a status of success, and the first value of its header for the flavor of the
server is `Google`. -/
def IdentifiesItself (response : Http.Response) : Prop :=
  200 ≤ response.status ∧ response.status < 300 ∧
    ∃ later, Http.Headers.values response.headers "metadata-flavor" =
      Bytes.ofText "Google" :: later

/-- A response is taken for one of a metadata server exactly if it identifies itself. -/
theorem isMetadataServer_iff (response : Http.Response) :
    isMetadataServer response = true ↔ IdentifiesItself response := by
  simp only [isMetadataServer, Http.Headers.first?, Bool.and_eq_true, Http.isSuccess_iff,
    beq_iff_eq, List.head?_eq_some_iff, and_assoc]
  rfl

/-- There is a metadata server at the root. -/
def Answers (network : Http.Network) (root : String) : Prop :=
  ∃ response, (network.send (rootPage root)).1 = .ok response ∧ IdentifiesItself response

/-- `Offered given scopes world outcome` says what the surroundings offer in a world, with the
metadata server at the root that is given or that the environment names. -/
inductive Offered (given : Option String) (scopes : List String) (world : World) :
    Except Error Credentials → Prop where
  /-- A key file that the environment names decides alone, whether there is a key in it or not. -/
  | keyFile (path : String) (outcome : Except Error Credentials)
      (hfile : NamesKeyFile world.environment path)
      (hopened : Credentials.Opened scopes (ServiceAccountKey.inFile world.files path) outcome) :
      Offered given scopes world outcome
  /-- Without a key file, the metadata server that answers stands for the machine. Slashes at the end
  of its root do not count any more. -/
  | machine (root bare : String) (hfile : ∀ path, ¬ NamesKeyFile world.environment path)
      (hroot : RootOf given world.environment root) (hanswers : Answers world.network root)
      (hbare : Bare root bare) : Offered given scopes world (.ok ⟨.machine bare, scopes⟩)
  /-- Without both there is nothing. -/
  | nothing (root : String) (hfile : ∀ path, ¬ NamesKeyFile world.environment path)
      (hroot : RootOf given world.environment root) (hsilent : ¬ Answers world.network root) :
      Offered given scopes world (.error (.ambientUnavailable
        "GOOGLE_APPLICATION_CREDENTIALS is not set and no metadata server answered"))

/-- The environment names one key file at most. -/
theorem NamesKeyFile.unique {environment : Environment} {path other : String}
    (h : NamesKeyFile environment path) (hother : NamesKeyFile environment other) :
    path = other :=
  Option.some.inj (h.1.symm.trans hother.1)

/-- The variable is read as the path that it names, if it names one. -/
theorem runIn_readKeyFileVariable (world : World) :
    (Action.readNonEmptyVariable keyFileVariable).runIn world =
      (.ok ((world.environment.text? keyFileVariable).filter (· ≠ "")), world) := rfl

/-- The variable names a path exactly if reading it gives that path. -/
theorem namesKeyFile_iff (environment : Environment) (path : String) :
    NamesKeyFile environment path ↔
      (environment.text? keyFileVariable).filter (· ≠ "") = some path := by
  simp [NamesKeyFile, keyFileVariable, Option.filter_eq_some_iff]

/-- The variable names no path exactly if reading it gives none. -/
theorem not_namesKeyFile_iff (environment : Environment) :
    (∀ path, ¬ NamesKeyFile environment path) ↔
      (environment.text? keyFileVariable).filter (· ≠ "") = none := by
  simp only [namesKeyFile_iff, Option.eq_none_iff_forall_ne_some, ne_eq]

/-- Where the environment names a key file, the search asks for that file and reports it. -/
theorem runIn_fromKeyFile_of_named (scopes : List String) {world : World} {path : String}
    (h : NamesKeyFile world.environment path) :
    ∃ events, (fromKeyFile scopes).runIn world =
      ((ServiceAccountKey.inFile world.files path).map fun key => some (.ofKey key scopes),
        { world with log := world.log ++ events }) := by
  have hvariable := runIn_readKeyFileVariable world
  rw [(namesKeyFile_iff world.environment path).1 h] at hvariable
  refine ⟨[⟨.debug, .auth, "loading ambient credentials from " ++ keyFileVariable,
    [.plain "path" path]⟩], ?_⟩
  rw [fromKeyFile, Action.runIn_bind_of_ok hvariable]
  simp only [Action.runIn_bind, Action.runIn_report, ServiceAccountKey.runIn_ofFile]
  cases ServiceAccountKey.inFile world.files path with
  | error error => rfl
  | ok key => rfl

/-- Where the environment names no key file, the search for one finds nothing and does nothing. -/
theorem runIn_fromKeyFile_of_unnamed (scopes : List String) {world : World}
    (h : ∀ path, ¬ NamesKeyFile world.environment path) :
    (fromKeyFile scopes).runIn world = (.ok none, world) := by
  have hvariable := runIn_readKeyFileVariable world
  rw [(not_namesKeyFile_iff world.environment).1 h] at hvariable
  rw [fromKeyFile, Action.runIn_bind_of_ok hvariable]
  rfl

/-- What the outcome of the probe says about the machine. -/
def machineOffered (root : String) (scopes : List String) :
    Except Http.TransportFault Http.Response → Option Credentials
  | .ok response => if isMetadataServer response then some (.ofMachine root scopes) else none
  | .error _ => none

/-- The search for a metadata server probes its root once and reports what it does not find. -/
theorem runIn_fromMachine (given : Option String) (scopes : List String) (world : World) :
    ∃ events, (fromMachine given scopes).runIn world =
      (.ok (machineOffered (metadataRoot given world.environment) scopes
          (world.network.send (probe (metadataRoot given world.environment))).1),
        { world with
          network := (world.network.send (probe (metadataRoot given world.environment))).2
          log := world.log ++ events }) := by
  rw [fromMachine, Action.runIn_bind_of_ok (Action.runIn_ask _ world),
    Action.runIn_bind_of_ok (Action.runIn_send _ world)]
  rcases world.network.send (probe (metadataRoot given world.environment)) with
    ⟨outcome, network⟩
  cases outcome with
  | error fault => exact ⟨_, rfl⟩
  | ok response =>
      cases hserver : isMetadataServer response with
      | true => exact ⟨[], by simp [machineOffered, hserver]⟩
      | false =>
          simp only [machineOffered, hserver, Bool.false_eq_true, if_false]
          exact ⟨_, rfl⟩

/-- The network after the surroundings have been searched: it has seen a probe if the environment
names no key file. -/
def searched (given : Option String) (world : World) : Http.Network :=
  match (world.environment.text? keyFileVariable).filter (· ≠ "") with
  | some _ => world.network
  | none => (world.network.send (probe (metadataRoot given world.environment))).2

/-- What the outcome of the probe says about the machine is what `Offered` says. -/
theorem offered_of_machineOffered {given : Option String} (scopes : List String) {world : World}
    (hfile : ∀ path, ¬ NamesKeyFile world.environment path) :
    Offered given scopes world
      (match machineOffered (metadataRoot given world.environment) scopes
          (world.network.send (probe (metadataRoot given world.environment))).1 with
      | some credentials => .ok credentials
      | none => .error (.ambientUnavailable
          "GOOGLE_APPLICATION_CREDENTIALS is not set and no metadata server answered")) := by
  have hroot := (rootOf_iff given world.environment _).2 rfl
  generalize metadataRoot given world.environment = root at hroot ⊢
  cases hanswer : (world.network.send (probe root)).1 with
  | error fault =>
      refine .nothing root hfile hroot ?_
      rintro ⟨response, hresponse, -⟩
      cases hanswer.symm.trans hresponse
  | ok response =>
      cases hserver : isMetadataServer response with
      | true =>
          have hidentified := (isMetadataServer_iff response).1 hserver
          simp only [machineOffered, hserver, if_true]
          exact .machine root _ hfile hroot ⟨response, hanswer, hidentified⟩ ((bare_iff root _).2 rfl)
      | false =>
          simp only [machineOffered, hserver, Bool.false_eq_true, if_false]
          refine .nothing root hfile hroot ?_
          rintro ⟨other, hother, hidentified⟩
          obtain rfl : response = other := Except.ok.inj (hanswer.symm.trans hother)
          rw [(isMetadataServer_iff response).2 hidentified] at hserver
          cases hserver

/-- Searching the surroundings ends as `Offered` says, and touches the network and the log alone. -/
theorem runIn_discover (given : Option String) (scopes : List String) (world : World) :
    ∃ outcome events, Offered given scopes world outcome ∧
      (discover given scopes).runIn world =
        (outcome, { world with network := searched given world, log := world.log ++ events }) := by
  cases hvariable : (world.environment.text? keyFileVariable).filter (· ≠ "") with
  | some path =>
      -- The file decides alone, so its failure ends the search before a server is probed.
      have hfile := (namesKeyFile_iff world.environment path).2 hvariable
      obtain ⟨events, hrun⟩ := runIn_fromKeyFile_of_named scopes hfile
      refine ⟨_, events, .keyFile path _ hfile ((Credentials.opened_iff _ _ _).2 rfl), ?_⟩
      rw [discover, Action.runIn_bind, hrun, searched, hvariable]
      cases ServiceAccountKey.inFile world.files path with
      | error error => rfl
      | ok key => rfl
  | none =>
      have hfile := (not_namesKeyFile_iff world.environment).2 hvariable
      obtain ⟨events, hrun⟩ := runIn_fromMachine given scopes world
      refine ⟨_, events, offered_of_machineOffered scopes hfile, ?_⟩
      rw [discover, Action.runIn_bind_of_ok (runIn_fromKeyFile_of_unnamed scopes hfile),
        Action.runIn_bind_of_ok hrun, searched, hvariable]
      cases machineOffered (metadataRoot given world.environment) scopes
          (world.network.send (probe (metadataRoot given world.environment))).1 with
      | some credentials => rfl
      | none => rfl

/-- `Probing before after probed root` says that a network has been sent nothing between two states,
or a request for the page at a root: `probed` is what it has seen of it. -/
structure Probing (before after : Http.Network) (probed : List Http.SeenRequest) (root : String) :
    Prop where
  sees : Http.Network.Sees before after probed
  own : ∀ seen ∈ probed.head?, seen.IsTo "GET" (root ++ "/")

/-- A network that is left alone is sent nothing. -/
theorem probing_refl (network : Http.Network) (root : String) :
    Probing network network [] root := by
  refine ⟨.refl network, ?_⟩
  intro _ hnone
  cases hnone

/-- Searching the surroundings lets the network see one probe of the metadata server at most. -/
theorem probing_searched (given : Option String) (world : World) :
    ∃ probed, Probing world.network (searched given world) probed
      (metadataRoot given world.environment) := by
  rw [searched]
  split
  · exact ⟨[], probing_refl _ _⟩
  · refine ⟨_, Http.Network.sees_send _ _, fun seen hseen => ?_⟩
    exact Http.Request.isTo_of_seen (Http.Network.seen?_of_head?_trail hseen)

/-- The metadata server is looked for at one root. -/
theorem RootOf.unique {given : Option String} {environment : Environment} {root other : String}
    (h : RootOf given environment root) (hother : RootOf given environment other) :
    root = other := by
  rw [rootOf_iff] at h hother
  exact h.symm.trans hother

/-- The surroundings offer one thing only. -/
theorem Offered.unique {given : Option String} {scopes : List String} {world : World}
    {outcome other : Except Error Credentials} (h : Offered given scopes world outcome)
    (hother : Offered given scopes world other) : outcome = other := by
  cases h with
  | keyFile path _ hfile hopened =>
      cases hother with
      | keyFile path' _ hfile' hopened' =>
          rw [← hfile.unique hfile', Credentials.opened_iff] at hopened'
          rw [Credentials.opened_iff] at hopened
          exact hopened.symm.trans hopened'
      | machine _ _ hnone => exact absurd hfile (hnone path)
      | nothing _ hnone => exact absurd hfile (hnone path)
  | machine root bare hfile hroot hanswers hbare =>
      cases hother with
      | keyFile path _ hfile' => exact absurd hfile' (hfile path)
      | machine root' bare' _ hroot' _ hbare' =>
          rw [← hroot.unique hroot', bare_iff] at hbare'
          rw [bare_iff] at hbare
          rw [← hbare, ← hbare']
      | nothing root' _ hroot' hsilent => exact absurd (hroot.unique hroot' ▸ hanswers) hsilent
  | nothing root hfile hroot hsilent =>
      cases hother with
      | keyFile path _ hfile' => exact absurd hfile' (hfile path)
      | machine root' _ _ hroot' hanswers => exact absurd (hroot.unique hroot' ▸ hanswers) hsilent
      | nothing => rfl

/-- What the surroundings offer does not depend on the log. -/
theorem Offered.of_log {given : Option String} {scopes : List String} {world : World}
    {log : List Event} {outcome : Except Error Credentials}
    (h : Offered given scopes { world with log } outcome) : Offered given scopes world outcome := by
  cases h with
  | keyFile path _ hfile hopened => exact .keyFile path _ hfile hopened
  | machine root bare hfile hroot hanswers hbare => exact .machine root bare hfile hroot hanswers hbare
  | nothing root hfile hroot hsilent => exact .nothing root hfile hroot hsilent

/-- Credentials that the surroundings offer carry the scopes that they were asked for, and act for
themselves. -/
theorem Offered.carried {given : Option String} {scopes : List String} {world : World}
    {credentials : Credentials} (h : Offered given scopes world (.ok credentials)) :
    credentials.scopes = scopes ∧ credentials.subject = none := by
  generalize houtcome : Except.ok credentials = outcome at h
  cases h with
  | keyFile path _ hfile hopened =>
      rw [← houtcome] at hopened
      exact hopened.carried
  | machine =>
      cases houtcome
      exact ⟨rfl, rfl⟩
  | nothing => cases houtcome

end Ambient

end CloudCredentials
