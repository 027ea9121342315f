import CloudCredentials.Proofs.Credentials.Discovery
import CloudCredentials.Proofs.Credentials.TokenRequests

/-!
# Slashes at the end of a metadata server's root

A search of the surroundings probes one root, and the credentials that it finds ask one root for
their tokens. `Served` names the two. The root that is asked never ends in a slash. The one that is
probed may, if the environment names a host that does: `served_slashed` says which roots these are
for a root and for a host with any number of slashes after it.
-/

namespace CloudCredentials

namespace Ambient

/-- `AsksAt credentials root` says that credentials take each of their tokens from the metadata
server at a root. -/
structure AsksAt (credentials : Credentials) (root : String) : Prop where
  address : (Credentials.metadataTokenRequest root credentials.scopes).address =
    root ++ "/computeMetadata/v1/instance/service-accounts/default/token"
  sent : ∀ world, (credentials.token.runIn world).2 =
    world.afterSending (Credentials.metadataTokenRequest root credentials.scopes)

/-- Credentials of the machine ask at their root. -/
theorem asksAt_machine (root : String) (scopes : List String) :
    AsksAt ⟨.machine root, scopes⟩ root where
  address := rfl
  sent := fun world => congrArg Prod.snd (Credentials.runIn_fetchMetadataToken root scopes world)

/-- `Served given scopes world probed asked` says that a search of the surroundings probes the one
root, and that credentials for the scopes are found if a metadata server answers there, which take
their tokens from the other root. -/
structure Served (given : Option String) (scopes : List String) (world : World)
    (probed asked : String) : Prop where
  address : (probe probed).address = probed ++ "/"
  probe : Probed world.network ((discover given scopes).runIn world).2.network probed
  found : Answers world.network probed → ∃ credentials,
    ((discover given scopes).runIn world).1 = .ok credentials ∧ credentials.scopes = scopes ∧
      AsksAt credentials asked

/-- Without a key file, a root is probed as it is and asked for tokens without the slashes after
it. -/
theorem served_discover {given : Option String} (scopes : List String) {world : World}
    {root : String} {count : Nat} (h : ¬ EndsInSlash root)
    (hroot : RootOf given world.environment (root ++ slashes count))
    (hfile : ∀ path, ¬ NamesKeyFile world.environment path) :
    Served given scopes world (root ++ slashes count) root := by
  have hunset : ∀ path,
      world.environment.get? "GOOGLE_APPLICATION_CREDENTIALS" = some (Bytes.ofText path) →
      path = "" := by
    intro path hvariable
    by_contra hne
    exact hfile path ((namesKeyFile_iff_get? _ _).2 ⟨hvariable, hne⟩)
  obtain ⟨probed, hprobedRoot, hprobed, hfound, -⟩ :=
    (discovers_discover given scopes world).machine hunset
  rw [hprobedRoot.unique hroot] at hprobed hfound
  refine ⟨rfl, hprobed, fun hanswers => ?_⟩
  obtain ⟨bare, hbare, hrun⟩ := hfound hanswers
  rw [bare_iff, withoutEndSlashes_append_slashes h] at hbare
  rw [← hbare] at hrun
  exact ⟨_, hrun, rfl, asksAt_machine root scopes⟩

/-- Without a key file, a root that does not end in a slash is both probed and asked for tokens. -/
theorem served_discover_bare {given : Option String} (scopes : List String) {world : World}
    {root : String} (h : ¬ EndsInSlash root)
    (hroot : RootOf given world.environment root)
    (hfile : ∀ path, ¬ NamesKeyFile world.environment path) :
    Served given scopes world root root := by
  have hnone : root ++ slashes 0 = root := (append_slashes_eq_self_iff root 0).2 rfl
  rw [← hnone] at hroot
  have hserved := served_discover scopes h hroot hfile
  rwa [hnone] at hserved

/-- A root that is given is probed and asked for tokens, however many slashes come after it. So is
the usual host where none is named. A host that the environment names is asked for tokens without
the slashes after it, but probed with them, so the two roots are one only if there are none. -/
theorem served_slashed {root host : String} (hroot : ¬ EndsInSlash root)
    (hhost : ¬ EndsInSlash host) (hne : host ≠ "") (count : Nat) (scopes : List String)
    {world : World} (hfile : ∀ path, ¬ NamesKeyFile world.environment path) :
    Served (some (root ++ slashes count)) scopes world root root ∧
      ((∀ named, world.environment.text? "GCE_METADATA_HOST" = some named → named = "") →
        Served none scopes world "http://metadata.google.internal"
          "http://metadata.google.internal") ∧
      (world.environment.text? "GCE_METADATA_HOST" = some (host ++ slashes count) →
        Served none scopes world ("http://" ++ host ++ slashes count) ("http://" ++ host) ∧
          ("http://" ++ host ++ slashes count = "http://" ++ host ↔ count = 0)) := by
  have hscheme : ¬ EndsInSlash ("http://" ++ host) := by rwa [endsInSlash_append_iff _ hne]
  refine ⟨?_, fun hunnamed => ?_, fun hnamed => ⟨?_, append_slashes_eq_self_iff _ count⟩⟩
  · exact served_discover_bare scopes hroot (.given _ root rfl ⟨hroot, count, rfl⟩) hfile
  · have husual : ¬ EndsInSlash "http://metadata.google.internal" := by decide
    exact served_discover_bare scopes husual (.usual rfl hunnamed) hfile
  · have hset : host ++ slashes count ≠ "" := by simp [hne]
    refine served_discover scopes hscheme ?_ hfile
    rw [String.append_assoc]
    exact .named _ rfl hnamed hset

/-- A machine whose environment names a host with a slash after it, and where a metadata server
answers. -/
def slashedMachine : World where
  environment := [("GCE_METADATA_HOST", Bytes.ofText "metadata/")]
  files := .initial
  clock := 0
  network := ⟨true, [.respond 200 [flavorHeader] [] false, .respond 200 [] [] false], [], .ignored⟩
  log := []

/-- A root with a slash after it is probed without the slash, the host of the machine with it. -/
theorem served_slashed_of_machine :
    Served (some "http://metadata/") ["s"] slashedMachine "http://metadata" "http://metadata" ∧
      Served none ["s"] slashedMachine "http://metadata/" "http://metadata" := by
  have hroot : ¬ EndsInSlash "http://metadata" := by decide
  have hhost : ¬ EndsInSlash "metadata" := by decide
  have hfile : ∀ path, ¬ NamesKeyFile slashedMachine.environment path := by
    rintro path ⟨hpath, -⟩
    have hunset : slashedMachine.environment.text? "GOOGLE_APPLICATION_CREDENTIALS" = none := by
      decide
    rw [hunset] at hpath
    cases hpath
  have hserved := served_slashed hroot hhost (by decide) 1 ["s"] hfile
  exact ⟨hserved.1, (hserved.2.2 (by decide)).1⟩

/-- On that machine the server is probed at a place with two slashes and asked for a token at one
with a single slash. -/
theorem probed_ne_asked_on_machine :
    let tokenAfterSearch : Action String := do (← discover none ["s"]).token
    ((tokenAfterSearch.runIn slashedMachine).2.network.seen.map (·.address)) =
      ["http://metadata//",
        "http://metadata/computeMetadata/v1/instance/service-accounts/default/token?scopes=s"] := by
  decide +kernel

end Ambient

end CloudCredentials
