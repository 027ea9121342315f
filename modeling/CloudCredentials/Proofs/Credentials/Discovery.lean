import CloudCredentials.Proofs.Credentials.Sources

/-!
# How the surroundings are searched

A key file that the environment names ends the search, whatever is in it. Only without one is the
metadata server probed, once, and it counts if it identifies itself. `Discovers` says this of a run,
and `discovers_discover` that every search of the surroundings runs so.
-/

namespace CloudCredentials

namespace Ambient

/-- The environment names a key file if the variable is set to the UTF-8 form of its path, which is
not empty. -/
theorem namesKeyFile_iff_get? (environment : Environment) (path : String) :
    NamesKeyFile environment path ↔
      environment.get? "GOOGLE_APPLICATION_CREDENTIALS" = some (Bytes.ofText path) ∧ path ≠ "" := by
  simp [NamesKeyFile, Environment.text?, Option.bind_eq_some_iff, Bytes.text?_eq_some_iff]

/-- `Probed before after root` says that the network was sent one request in between, for the page
at the root, as a client of metadata servers. -/
structure Probed (before after : Http.Network) (root : String) : Prop where
  sent : after = (before.send (rootPage root)).2
  /-- What the network sees of it, if it is reached, is that request, and besides it only what the
  request is redirected to. -/
  seen : ∃ probed, Http.Network.Sees before after probed ∧
    ∀ own ∈ probed.head?, own.IsTo "GET" (root ++ "/") ∧ own.body = [] ∧
      Http.Headers.values own.headers "metadata-flavor" = [Bytes.ofText "Google"]

/-- Sending the probe is probing. -/
theorem probed_send (network : Http.Network) (root : String) :
    Probed network (network.send (probe root)).2 root where
  sent := rfl
  seen := by
    refine ⟨_, Http.Network.sees_send network (probe root), fun own hown => ?_⟩
    have hseen := Http.Network.seen?_of_head?_trail hown
    have hname : "metadata-flavor" ≠ "authorization" := by decide
    exact ⟨Http.Request.isTo_of_seen hseen, (Http.Request.method_body_of_seen hseen).2,
      Http.Request.values_of_seen hseen hname⟩

/-- `Discovers given scopes world run` says how a run that searches the surroundings goes in a
world. -/
structure Discovers (given : Option String) (scopes : List String) (world : World)
    (run : Except Error Credentials × World) : Prop where
  /-- With a key file, the search comes to the key in that file, or to the failure to read one, and
  asks no server. -/
  keyFile : ∀ path,
    world.environment.get? "GOOGLE_APPLICATION_CREDENTIALS" = some (Bytes.ofText path) →
    path ≠ "" →
      Credentials.Opened scopes ((ServiceAccountKey.ofFile path).runIn world).1 run.1 ∧
        run.2.network = world.network
  /-- Without one, the metadata server decides. The credentials hold its root without the slashes at
  the end. -/
  machine : (∀ path,
      world.environment.get? "GOOGLE_APPLICATION_CREDENTIALS" = some (Bytes.ofText path) →
      path = "") →
    ∃ root, RootOf given world.environment root ∧ Probed world.network run.2.network root ∧
      (Answers world.network root →
        ∃ bare, Bare root bare ∧ run.1 = .ok ⟨.machine bare, scopes⟩) ∧
      (¬ Answers world.network root →
        run.1 = .error (.ambientUnavailable
          "GOOGLE_APPLICATION_CREDENTIALS is not set and no metadata server answered"))
  /-- The credentials carry the scopes that they were asked for, and act for themselves. -/
  carried : ∀ credentials, run.1 = .ok credentials →
    credentials.scopes = scopes ∧ credentials.subject = none
  /-- Nothing but the network and the log changes. -/
  kept : run.2 = { world with network := run.2.network, log := run.2.log }

/-- What the surroundings offer with a key file is what becomes of the key in it. -/
theorem Offered.opened_of_named {given : Option String} {scopes : List String} {world : World}
    {outcome : Except Error Credentials} (h : Offered given scopes world outcome) {path : String}
    (hpath : NamesKeyFile world.environment path) :
    Credentials.Opened scopes (ServiceAccountKey.inFile world.files path) outcome := by
  have hopened := (Credentials.opened_iff scopes (ServiceAccountKey.inFile world.files path) _).2 rfl
  rwa [h.unique (.keyFile path _ hpath hopened)]

/-- The search of a named key file asks no server. -/
theorem searched_of_named {world : World} {path : String}
    (h : NamesKeyFile world.environment path) (given : Option String) :
    searched given world = world.network := by
  rw [searched, (namesKeyFile_iff world.environment path).1 h]

/-- The search without a key file asks the metadata server. -/
theorem searched_of_unnamed {world : World}
    (h : ∀ path, ¬ NamesKeyFile world.environment path) (given : Option String) :
    searched given world =
      (world.network.send (probe (metadataRoot given world.environment))).2 := by
  rw [searched, (not_namesKeyFile_iff world.environment).1 h]

/-- Every search of the surroundings goes by a key file first and by the metadata server second. -/
theorem discovers_discover (given : Option String) (scopes : List String) (world : World) :
    Discovers given scopes world ((discover given scopes).runIn world) := by
  obtain ⟨outcome, events, hoffered, hrun⟩ := runIn_discover given scopes world
  rw [hrun]
  constructor
  case keyFile =>
    intro path hvariable hne
    have hnamed := (namesKeyFile_iff_get? world.environment path).2 ⟨hvariable, hne⟩
    rw [ServiceAccountKey.runIn_ofFile]
    exact ⟨hoffered.opened_of_named hnamed, searched_of_named hnamed given⟩
  case machine =>
    intro hvariable
    have hnone : ∀ path, ¬ NamesKeyFile world.environment path := by
      intro path hnamed
      obtain ⟨hset, hne⟩ := (namesKeyFile_iff_get? world.environment path).1 hnamed
      exact hne (hvariable path hset)
    have hroot := (rootOf_iff given world.environment _).2 rfl
    have hsearched := searched_of_unnamed hnone given
    generalize metadataRoot given world.environment = root at hroot hsearched
    refine ⟨root, hroot, ?_, fun hanswers => ?_, fun hsilent => ?_⟩
    · show Probed _ (searched given world) root
      rw [hsearched]
      exact probed_send _ _
    · have hbare := (bare_iff root _).2 rfl
      exact ⟨_, hbare, hoffered.unique (.machine root _ hnone hroot hanswers hbare)⟩
    · exact hoffered.unique (.nothing root hnone hroot hsilent)
  case carried =>
    rintro credentials rfl
    exact hoffered.carried
  case kept => rfl

end Ambient

end CloudCredentials
