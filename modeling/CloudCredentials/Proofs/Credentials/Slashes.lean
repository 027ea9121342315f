import CloudCredentials.Ambient
import CloudCredentials.Proofs.Text.Ends

/-!
# Where the metadata server is

A text is taken without the slashes at its end: `bare_iff` says which text that is. The metadata
server is at the root that is given, taken so, or at the host that the environment names, or at the
usual one, and `rootOf_iff` says that it is looked for there.
-/

namespace CloudCredentials

/-- The text ends in a slash. -/
def EndsInSlash (text : String) : Prop :=
  ∃ stem, text = stem ++ "/"

/-- That many slashes. -/
def slashes (count : Nat) : String :=
  String.ofList (List.replicate count '/')

/-- A text ends in a slash if its last character is one. -/
theorem endsInSlash_iff (text : String) :
    EndsInSlash text ↔ text.toList.getLast? = some '/' := by
  rw [List.getLast?_eq_some_iff]
  constructor
  · rintro ⟨stem, rfl⟩
    exact ⟨stem.toList, String.toList_append⟩
  · rintro ⟨stem, hstem⟩
    refine ⟨String.ofList stem, String.toList_injective ?_⟩
    rw [hstem, String.toList_append, String.toList_ofList]
    rfl

instance (text : String) : Decidable (EndsInSlash text) :=
  decidable_of_iff _ (endsInSlash_iff text).symm

/-- What comes before a text that is not empty does not tell whether it ends in a slash. -/
theorem endsInSlash_append_iff (before : String) {text : String} (hne : text ≠ "") :
    EndsInSlash (before ++ text) ↔ EndsInSlash text := by
  have hcharacters : text.toList ≠ [] := fun h => hne (String.toList_injective h)
  rw [endsInSlash_iff, endsInSlash_iff, String.toList_append,
    List.getLast?_append_of_ne_nil _ hcharacters]

/-- However many slashes come after a text that does not end in one, the text is left without
them. -/
theorem withoutEndSlashes_append_slashes {text : String} (h : ¬ EndsInSlash text) (count : Nat) :
    withoutEndSlashes (text ++ slashes count) = text := by
  have hslashes : ∀ character ∈ List.replicate count '/', (character == '/') = true := by
    intro character hmem
    rw [List.eq_of_mem_replicate hmem]
    rfl
  have hlast : ∀ character ∈ text.toList.getLast?, (character == '/') = false := by
    rintro character hcharacter
    rw [beq_eq_false_iff_ne]
    rintro rfl
    exact h ((endsInSlash_iff text).2 hcharacter)
  have htoList : (text ++ slashes count).toList = text.toList ++ List.replicate count '/' := by
    rw [String.toList_append, slashes, String.toList_ofList]
  calc withoutEndSlashes (text ++ slashes count)
      = String.ofList ((text ++ slashes count).toList.rdropWhile (· == '/')) := rfl
    _ = String.ofList text.toList := by
        rw [htoList, Text.rdropWhile_append _ hslashes, Text.rdropWhile_eq_self hlast]
    _ = text := String.ofList_toList

/-- A text with slashes after it is the text itself only if there are none. -/
theorem append_slashes_eq_self_iff (text : String) (count : Nat) :
    text ++ slashes count = text ↔ count = 0 := by
  rw [← String.toList_inj, String.toList_append, slashes, String.toList_ofList]
  simp

/-- `Bare text bare` says that the one text is the other with slashes after it, as many as there
are. -/
def Bare (text bare : String) : Prop :=
  ¬ EndsInSlash bare ∧ ∃ count, text = bare ++ slashes count

/-- A text is left as what it is before the slashes at its end. -/
theorem bare_iff (text bare : String) : Bare text bare ↔ withoutEndSlashes text = bare := by
  constructor
  · rintro ⟨hbare, count, rfl⟩
    exact withoutEndSlashes_append_slashes hbare count
  · rintro rfl
    have htoList : (withoutEndSlashes text).toList = text.toList.rdropWhile (· == '/') :=
      String.toList_ofList
    refine ⟨?_, (text.toList.rtakeWhile (· == '/')).length, String.toList_injective ?_⟩
    · rw [endsInSlash_iff, htoList]
      intro hlast
      simpa using Text.getLast?_rdropWhile '/' hlast
    · have hslashes : text.toList.rtakeWhile (· == '/') =
          List.replicate (text.toList.rtakeWhile (· == '/')).length '/' := by
        refine List.eq_replicate_of_mem fun character hmem => ?_
        have hslash := List.mem_rtakeWhile_imp hmem
        exact beq_iff_eq.1 hslash
      rw [String.toList_append, htoList, slashes, String.toList_ofList, ← hslashes]
      exact (List.rdropWhile_append_rtakeWhile (p := (· == '/'))).symm

namespace Ambient

/-- `RootOf given environment root` says that the metadata server is looked for at this root. -/
inductive RootOf (given : Option String) (environment : Environment) : String → Prop where
  /-- The root that is given counts without the slashes at its end. -/
  | given (text root : String) (hgiven : given = some text) (hbare : Bare text root) :
      RootOf given environment root
  /-- Without one, a host that the environment names counts as it is. -/
  | named (host : String) (hgiven : given = none)
      (hhost : environment.text? "GCE_METADATA_HOST" = some host) (hne : host ≠ "") :
      RootOf given environment ("http://" ++ host)
  /-- Without both it is the usual host. -/
  | usual (hgiven : given = none)
      (hunnamed : ∀ host, environment.text? "GCE_METADATA_HOST" = some host → host = "") :
      RootOf given environment "http://metadata.google.internal"

/-- The host that the environment names is taken as it is. -/
theorem metadataRoot_named {environment : Environment} {host : String}
    (hhost : environment.text? "GCE_METADATA_HOST" = some host) (hne : host ≠ "") :
    metadataRoot none environment = "http://" ++ host := by
  rw [metadataRoot, metadataHostVariable, hhost, Option.filter_some, if_pos (by simpa using hne),
    Option.getD_some]

/-- Without a name in the environment it is the usual host. -/
theorem metadataRoot_unnamed {environment : Environment}
    (h : ∀ host, environment.text? "GCE_METADATA_HOST" = some host → host = "") :
    metadataRoot none environment = "http://metadata.google.internal" := by
  have hnone : (environment.text? "GCE_METADATA_HOST").filter (· ≠ "") = none := by
    rw [Option.filter_eq_none_iff]
    intro host hhost
    simpa using h host hhost
  rw [metadataRoot, metadataHostVariable, hnone]
  rfl

/-- The metadata server is looked for at its root. -/
theorem rootOf_iff (given : Option String) (environment : Environment) (root : String) :
    RootOf given environment root ↔ metadataRoot given environment = root := by
  constructor
  · intro h
    cases h with
    | given text root hgiven hbare =>
        rw [hgiven]
        exact (bare_iff text root).1 hbare
    | named host hgiven hhost hne =>
        rw [hgiven]
        exact metadataRoot_named hhost hne
    | usual hgiven hunnamed =>
        rw [hgiven]
        exact metadataRoot_unnamed hunnamed
  · rintro rfl
    cases given with
    | some text => exact .given text _ rfl ((bare_iff text _).2 rfl)
    | none =>
        by_cases hnamed : ∃ host, environment.text? "GCE_METADATA_HOST" = some host ∧ host ≠ ""
        · obtain ⟨host, hhost, hne⟩ := hnamed
          rw [metadataRoot_named hhost hne]
          exact .named host rfl hhost hne
        · have hunnamed : ∀ host, environment.text? "GCE_METADATA_HOST" = some host → host = "" := by
            intro host hhost
            by_contra hne
            exact hnamed ⟨host, hhost, hne⟩
          rw [metadataRoot_unnamed hunnamed]
          exact .usual rfl hunnamed

end Ambient

end CloudCredentials
