import CloudCredentials.Proofs.Credentials.Decision

/-!
# What making a client does to the network

A client is made of credentials, and of credentials alone. `network_client_iff` says when a resolver
with the usual surroundings leaves the network alone in making one, and what it does to the network
when it does not: it looks for a metadata server.
-/

namespace CloudCredentials.Resolver

/-- Making a client leaves the world as making its credentials does. -/
theorem snd_client (resolver : Resolver) (world : World) :
    (resolver.client.runIn world).2 = (resolver.credentials.runIn world).2 := by
  rw [client, Action.runIn_bind]
  rcases resolver.credentials.runIn world with ⟨outcome, after⟩
  cases outcome with
  | error error => rfl
  | ok credentials => rfl

/-- The source of a connection without a key are the surroundings. -/
theorem source_of_not_hasKey {connection : Connection} (hkey : ¬ connection.HasKey) :
    connection.source = .ok .ambient :=
  Connection.source_of_unset (fun path hpath => hkey ⟨path, .inl hpath⟩)
    fun text htext => hkey ⟨text, .inr htext⟩

/-- Without a key of the connection and a key file of the environment, a metadata server is looked
for at its root. -/
theorem askedFor_of_search {connection : Connection} {world : World} {root : String}
    (hkey : ¬ connection.HasKey) (hfile : ∀ path, ¬ Ambient.NamesKeyFile world.environment path)
    (hroot : Ambient.RootOf none world.environment root) :
    askedFor connection world = (world.network.send (Ambient.rootPage root)).2 := by
  rw [askedFor, source_of_not_hasKey hkey]
  simp only [asked]
  rw [Ambient.searched, (Ambient.not_namesKeyFile_iff world.environment).1 hfile,
    ← (Ambient.rootOf_iff none world.environment root).1 hroot]
  rfl

/-- Where the environment names a key file, nothing is looked for over the network. -/
theorem askedFor_of_named {world : World} {path : String}
    (hfile : Ambient.NamesKeyFile world.environment path) (connection : Connection) :
    askedFor connection world = world.network := by
  by_cases hkey : connection.HasKey
  · exact askedFor_of_hasKey hkey world
  · rw [askedFor, source_of_not_hasKey hkey]
    simp only [asked]
    rw [Ambient.searched, (Ambient.namesKeyFile_iff world.environment path).1 hfile]

/-- Making a client leaves the network alone if the connection has a key, if the environment names a
key file, or if the search for a metadata server, a request for the page at its root, does not reach
the network. In every other case the network sees that request, and what it is redirected to if a
reply redirects it, and gives a reply away for each. -/
theorem network_client_iff (options : ResolverOptions) (connection : Connection) (world : World) :
    let resolver := ofConnection { options with ambient := none } connection
    ∃ root, Ambient.RootOf none world.environment root ∧
      ((resolver.client.runIn world).2.network = world.network ↔
        connection.HasKey ∨ (∃ path, Ambient.NamesKeyFile world.environment path) ∨
          world.network.recorded (Ambient.rootPage root) = none) ∧
      ∀ seen, ¬ connection.HasKey → (∀ path, ¬ Ambient.NamesKeyFile world.environment path) →
        world.network.recorded (Ambient.rootPage root) = some seen →
          ∃ followed, (resolver.client.runIn world).2.network =
            { world.network with
              seen := world.network.seen ++ seen :: followed
              replies := world.network.replies.drop (followed.length + 1) } ∧
            (∀ other ∈ followed, other.isRedirected = true) ∧
            (world.network.IsDirect → followed = []) := by
  intro resolver
  have hnetwork : (resolver.client.runIn world).2.network = askedFor connection world := by
    obtain ⟨given, events, _, hrun⟩ := resolver.runIn_credentials_chosen world (.inl rfl)
    rw [snd_client, hrun]
    rfl
  obtain ⟨root, hroot⟩ : ∃ root, Ambient.RootOf none world.environment root :=
    ⟨_, (Ambient.rootOf_iff none world.environment _).2 rfl⟩
  refine ⟨root, hroot, ?_⟩
  rw [hnetwork]
  by_cases hkey : connection.HasKey
  · exact ⟨iff_of_true (askedFor_of_hasKey hkey world) (.inl hkey), fun _ hno => absurd hkey hno⟩
  · by_cases hfile : ∃ path, Ambient.NamesKeyFile world.environment path
    · obtain ⟨path, hpath⟩ := hfile
      exact ⟨iff_of_true (askedFor_of_named hpath connection) (.inr (.inl ⟨path, hpath⟩)),
        fun _ _ hno => absurd hpath (hno path)⟩
    · have hsent := Http.Network.snd_send world.network (Ambient.rootPage root)
      rw [askedFor_of_search hkey (not_exists.1 hfile) hroot]
      obtain ⟨hrecorded, htrail⟩ | ⟨found, followed, hrecorded, htrail, hfollowed⟩ :=
        world.network.trail_eq (Ambient.rootPage root)
      · rw [htrail] at hsent
        simp only [List.append_nil, List.length_nil, List.drop_zero] at hsent
        refine ⟨iff_of_true hsent (.inr (.inr hrecorded)), fun seen _ _ hseen => ?_⟩
        rw [hrecorded] at hseen
        cases hseen
      · rw [htrail] at hsent
        constructor
        · refine iff_of_false (fun heq => ?_) (by simp [hkey, hfile, hrecorded])
          have hlength := congrArg (fun network => network.seen.length) (hsent.symm.trans heq)
          simp at hlength
        · intro seen _ _ hseen
          obtain rfl : found = seen := Option.some.inj (hrecorded.symm.trans hseen)
          have hdirect := (world.network.isTrail (Ambient.rootPage root)).direct
          rw [htrail] at hdirect
          exact ⟨followed, hsent, fun other hother => (hfollowed other hother).1, hdirect⟩

/-- A client for a connection without a key is made on a machine with a metadata server: the network
sees a request, and gives its reply away. -/
theorem network_client_of_machine :
    let world : World :=
      ⟨[], .initial, 0,
        ⟨true, [.respond 200 [⟨"metadata-flavor", Bytes.ofText "Google", false⟩] [] false], [], .ignored⟩, []⟩
    let made := (ofConnection ⟨none, none, none, none⟩ .empty).client.runIn world
    made.1.isOk = true ∧
      made.2.network.seen.map (fun seen => (seen.method, seen.address)) =
        [("GET", "http://metadata.google.internal/")] ∧
      made.2.network.replies = [] ∧ world.network.seen = [] ∧ world.network.replies ≠ [] := by
  decide +kernel

end CloudCredentials.Resolver
