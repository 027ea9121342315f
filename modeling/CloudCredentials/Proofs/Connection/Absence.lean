import CloudCredentials.CredentialFile
import CloudCredentials.Proofs.Credentials.Sources
import CloudCredentials.Proofs.World.Likeness

/-!
# Empty texts and absent ones

`UpToEmpty` says that two stored values differ at most in that one is empty where the other is
absent. Connections that are the same up to that are `Indistinguishable`: whatever is done with them
comes to the same in every world. The same holds of the two variables that the search for ambient
credentials reads. `empty_counts_as_absent` is the main statement.
-/

namespace CloudCredentials

/-- Two values differ at most in that one is empty where the other is absent. -/
inductive UpToEmpty {α : Type} (empty : α) : Option α → Option α → Prop where
  | same (value : Option α) : UpToEmpty empty value value
  | absent : UpToEmpty empty none (some empty)
  | empty : UpToEmpty empty (some empty) none

/-- A text that is not empty stays, and so does the absence of one. -/
theorem nonEmpty_eq_self {text : Option String} (h : text ≠ some "") : nonEmpty text = text := by
  cases text with
  | none => rfl
  | some word => exact Option.filter_eq_some_iff.2 ⟨rfl, by simpa using h⟩

/-- Texts are the same up to the empty one exactly if the same non-empty text is in both. -/
theorem upToEmpty_iff (left right : Option String) :
    UpToEmpty "" left right ↔ nonEmpty left = nonEmpty right := by
  have hnone : nonEmpty (some "") = none := rfl
  constructor
  · rintro (_ | _ | _)
    · rfl
    · rfl
    · rfl
  · intro h
    by_cases hleft : left = some "" <;> by_cases hright : right = some ""
    · rw [hleft, hright]
      exact .same _
    · rw [hleft, hnone, nonEmpty_eq_self hright] at h
      rw [hleft, ← h]
      exact .empty
    · rw [hright, hnone, nonEmpty_eq_self hleft] at h
      rw [hright, h]
      exact .absent
    · rw [nonEmpty_eq_self hleft, nonEmpty_eq_self hright] at h
      rw [h]
      exact .same _

/-! ## Connections -/

namespace Connection

/-- The stored texts of two connections differ at most in that some are empty in one where they are
absent in the other. -/
def SameUpToEmpty (left right : Connection) : Prop :=
  ∀ setting, UpToEmpty "" (left.stored setting) (right.stored setting)

/-- `Indistinguishable left right` says that nothing that can be done with a connection tells these
two apart. -/
structure Indistinguishable (left right : Connection) : Prop where
  keyPath_eq : left.keyPath = right.keyPath
  keyData_eq : left.keyData = right.keyData
  scope_eq : left.scope = right.scope
  project_eq : left.project = right.project
  field_eq (name : String) : left.field name = right.field name
  scopes_eq : left.scopes = right.scopes
  source_eq : left.source = right.source
  /-- Making credentials has the same outcome, the same events and the same requests. -/
  credentials_eq (options : ResolverOptions) (world : World) :
    (Resolver.ofConnection options left).credentials.runIn world =
      (Resolver.ofConnection options right).credentials.runIn world
  accessToken_eq (options : ResolverOptions) (world : World) :
    (Resolver.ofConnection options left).accessToken.runIn world =
      (Resolver.ofConnection options right).accessToken.runIn world
  client_eq (options : ResolverOptions) (world : World) :
    (Resolver.ofConnection options left).client.runIn world =
      (Resolver.ofConnection options right).client.runIn world
  /-- Every operation falls back to the same project, in both forms. -/
  withProject_eq (options : ResolverOptions) (m : Type → Type) [Monad m] [MonadExceptOf Error m]
    (Parameters α : Type) [ProjectScoped Parameters] (parameters : Parameters)
    (operation : Parameters → m α) :
    (Resolver.ofConnection options left).withProject parameters operation =
      (Resolver.ofConnection options right).withProject parameters operation
  withProjectArguments_eq (options : ResolverOptions) (m : Type → Type) [Monad m]
    [MonadExceptOf Error m] (α : Type) (call : CallArguments) (operation : CallArguments → m α) :
    (Resolver.ofConnection options left).withProjectArguments call operation =
      (Resolver.ofConnection options right).withProjectArguments call operation
  /-- The same key is handed over, in the same way. -/
  acquire_eq (world : World) : (Guard.acquire left).runIn world = (Guard.acquire right).runIn world
  withCredentialFile_eq (α : Type) (action : Action α) (world : World) :
    (withCredentialFile left action).runIn world = (withCredentialFile right action).runIn world

variable {left right : Connection}

/-- Connections are the same up to empty texts exactly if every setting is read alike. -/
theorem sameUpToEmpty_iff :
    left.SameUpToEmpty right ↔ ∀ setting, left.get setting = right.get setting :=
  forall_congr' fun setting => upToEmpty_iff (left.stored setting) (right.stored setting)

/-- The source of credentials depends on the settings that are read. -/
theorem source_congr (h : ∀ setting, left.get setting = right.get setting) :
    left.source = right.source := by
  have hkeyPath : left.keyPath = right.keyPath := h .keyPath
  have hkeyData : left.keyData = right.keyData := h .keyData
  rw [source, source, hkeyPath, hkeyData]

/-- What a resolver does depends on its connection through the settings that are read. -/
theorem credentials_congr (h : ∀ setting, left.get setting = right.get setting)
    (options : ResolverOptions) :
    (Resolver.ofConnection options left).credentials =
      (Resolver.ofConnection options right).credentials := by
  have hkeyPath : left.keyPath = right.keyPath := h .keyPath
  have hkeyData : left.keyData = right.keyData := h .keyData
  have hscopes : left.scopes = right.scopes := congrArg Scope.parse (h .scope)
  have hfrom : (Resolver.ofConnection options left).fromSource =
      (Resolver.ofConnection options right).fromSource := by
    funext source
    simp only [Resolver.fromSource, Resolver.ofConnection, hscopes]
  simp only [Resolver.credentials, hfrom]
  simp only [Resolver.ofConnection, hkeyPath, hkeyData, source_congr h]
  rfl

/-- What a guard does depends on its connection through the settings that are read. -/
theorem acquire_congr (h : ∀ setting, left.get setting = right.get setting) :
    Guard.acquire left = Guard.acquire right := by
  have hkeyPath : left.keyPath = right.keyPath := h .keyPath
  have hkeyData : left.keyData = right.keyData := h .keyData
  simp only [Guard.acquire, hkeyPath, hkeyData]

/-- Connections whose settings are read alike cannot be told apart. -/
theorem indistinguishable_of_get_eq (h : ∀ setting, left.get setting = right.get setting) :
    left.Indistinguishable right := by
  have hfield : ∀ name, left.field name = right.field name := fun name =>
    congrArg (Option.bind (Setting.ofName? name)) (funext h)
  have hcredentials := credentials_congr h
  have hacquire := acquire_congr h
  have hproject : ∀ options, (Resolver.ofConnection options left).project =
      (Resolver.ofConnection options right).project := by
    intro options
    rw [Resolver.project_eq, Resolver.project_eq]
    exact h .project
  constructor
  case keyPath_eq => exact h .keyPath
  case keyData_eq => exact h .keyData
  case scope_eq => exact h .scope
  case project_eq => exact h .project
  case field_eq => exact hfield
  case scopes_eq => exact congrArg Scope.parse (h .scope)
  case source_eq => exact source_congr h
  case credentials_eq =>
    intro options world
    rw [hcredentials options]
  case accessToken_eq =>
    intro options world
    rw [Resolver.accessToken, Resolver.accessToken, hcredentials options]
  case client_eq =>
    intro options world
    rw [Resolver.client, Resolver.client, hcredentials options]
    rfl
  case withProject_eq =>
    intro options m _ _ Parameters α _ parameters operation
    rw [Resolver.withProject, Resolver.withProject, hproject options]
  case withProjectArguments_eq =>
    intro options m _ _ α call operation
    rw [Resolver.withProjectArguments, Resolver.withProjectArguments, hproject options]
  case acquire_eq =>
    intro world
    rw [hacquire]
  case withCredentialFile_eq =>
    intro α action world
    rw [withCredentialFile, withCredentialFile, hacquire]

/-- Connections cannot be told apart exactly if they are the same up to empty texts. -/
theorem indistinguishable_iff : left.Indistinguishable right ↔ left.SameUpToEmpty right := by
  constructor
  · intro h
    refine sameUpToEmpty_iff.2 fun setting => ?_
    cases setting with
    | keyPath => exact h.keyPath_eq
    | keyData => exact h.keyData_eq
    | scope => exact h.scope_eq
    | project => exact h.project_eq
  · intro h
    exact indistinguishable_of_get_eq (sameUpToEmpty_iff.1 h)

end Connection

/-! ## The surroundings -/

namespace Ambient

/-- The variables that the search for ambient credentials reads. -/
def searchedVariables : List String := [keyFileVariable, metadataHostVariable]

/-- The variables of the search are the same in two environments, up to empty values. The other
variables may be anything. -/
def SearchedAlike (left right : Environment) : Prop :=
  ∀ name ∈ searchedVariables, UpToEmpty [] (left.get? name) (right.get? name)

/-- Environments in which the variables of the search are the same up to empty values. The files and
the requests that are seen have to be equal. -/
def searching : Likeness := ⟨SearchedAlike, Eq, Eq⟩

/-- A variable of the search is read alike. -/
theorem nonEmptyText_eq {left right : Environment} (h : SearchedAlike left right) {name : String}
    (hname : name ∈ searchedVariables) :
    (left.text? name).filter (· ≠ "") = (right.text? name).filter (· ≠ "") := by
  have hempty : (Bytes.text? []).filter (· ≠ "") = none := by decide
  rw [Environment.text?, Environment.text?]
  have hvalues := h name hname
  generalize left.get? name = value at hvalues ⊢
  generalize right.get? name = other at hvalues ⊢
  cases hvalues with
  | same => rfl
  | absent => exact hempty.symm
  | empty => exact hempty

/-- The root of the metadata server is the same. -/
theorem metadataRoot_eq (given : Option String) {left right : Environment}
    (h : SearchedAlike left right) : metadataRoot given left = metadataRoot given right := by
  cases given with
  | some root => rfl
  | none =>
      rw [metadataRoot, metadataRoot, nonEmptyText_eq h (List.mem_cons_of_mem _ List.mem_cons_self)]

/-- A key file is read alike. -/
theorem alike_ofFile (path : String) :
    searching.Alike Eq (ServiceAccountKey.ofFile path) (ServiceAccountKey.ofFile path) := by
  intro first second halike
  have hfiles : first.files = second.files := halike.files
  rw [ServiceAccountKey.runIn_ofFile, ServiceAccountKey.runIn_ofFile, hfiles]
  exact ⟨alikeOutcome_eq_iff.2 rfl, halike⟩

/-- The search for a key file is alike. -/
theorem alike_fromKeyFile (scopes : List String) :
    searching.Alike Eq (fromKeyFile scopes) (fromKeyFile scopes) := by
  have hvariable : searching.Alike Eq (Action.readNonEmptyVariable keyFileVariable)
      (Action.readNonEmptyVariable keyFileVariable) := fun first second halike =>
    ⟨.ok (nonEmptyText_eq halike.environment List.mem_cons_self), halike⟩
  refine hvariable.bind ?_
  rintro path _ rfl
  cases path with
  | none => exact Likeness.alike_pure rfl
  | some path =>
      refine (Likeness.alike_report _ _ _ _).bind fun _ _ _ => (alike_ofFile path).bind ?_
      rintro key _ rfl
      exact Likeness.alike_pure rfl

/-- The search for a metadata server is alike. -/
theorem alike_fromMachine (given : Option String) (scopes : List String) :
    searching.Alike Eq (fromMachine given scopes) (fromMachine given scopes) := by
  have hroot : searching.Alike Eq (Action.ask fun world => metadataRoot given world.environment)
      (Action.ask fun world => metadataRoot given world.environment) :=
    Likeness.alike_ask fun _ _ halike => metadataRoot_eq given halike.environment
  refine hroot.bind ?_
  rintro root _ rfl
  refine (Likeness.alike_send (.refl Http.congruent_eq (probe root))).bind ?_
  rintro outcome _ rfl
  cases outcome with
  | error fault =>
      exact (Likeness.alike_report _ _ _ _).bind fun _ _ _ => Likeness.alike_pure rfl
  | ok response =>
      simp only
      split
      · exact Likeness.alike_pure rfl
      · exact (Likeness.alike_report _ _ _ _).bind fun _ _ _ => Likeness.alike_pure rfl

/-- The search for ambient credentials is alike. -/
theorem alike_discover (given : Option String) (scopes : List String) :
    searching.Alike Eq (discover given scopes) (discover given scopes) := by
  refine (alike_fromKeyFile scopes).bind ?_
  rintro found _ rfl
  cases found with
  | some credentials => exact Likeness.alike_pure rfl
  | none =>
      refine (alike_fromMachine given scopes).bind ?_
      rintro found _ rfl
      cases found with
      | some credentials => exact Likeness.alike_pure rfl
      | none => exact Likeness.alike_throw _

end Ambient

/-- An empty text counts as absent: connections that are the same up to empty texts are exactly
those that nothing tells apart, and the search for ambient credentials comes to the same outcome,
the same requests and the same events where its variables are the same up to empty values. -/
theorem empty_counts_as_absent :
    (∀ left right : Connection, left.Indistinguishable right ↔ left.SameUpToEmpty right) ∧
    ∀ (given : Option String) (scopes : List String) (world : World) (environment : Environment),
      Ambient.SearchedAlike world.environment environment →
        ((Ambient.discover given scopes).runIn { world with environment }).1 =
            ((Ambient.discover given scopes).runIn world).1 ∧
          ((Ambient.discover given scopes).runIn { world with environment }).2.network =
            ((Ambient.discover given scopes).runIn world).2.network ∧
          ((Ambient.discover given scopes).runIn { world with environment }).2.log =
            ((Ambient.discover given scopes).runIn world).2.log := by
  refine ⟨fun _ _ => Connection.indistinguishable_iff, ?_⟩
  intro given scopes world environment hsearched
  have hworlds : World.Alike Ambient.searching world { world with environment } :=
    .of_surroundings hsearched rfl Http.congruent_eq
  obtain ⟨houtcome, hafter⟩ := Ambient.alike_discover given scopes hworlds
  exact ⟨(alikeOutcome_eq_iff.1 houtcome).symm, hafter.network_eq.symm, hafter.log.symm⟩

/-- A connection with an empty key path and an empty scope list is as good as one without settings,
and an empty key file variable as good as one that is not set. -/
theorem empty_counts_as_absent_of_blank :
    let world : World :=
      ⟨[(keyFileVariable, []), ("HOME", [])], .initial, 0, ⟨true, [.close], [], .ignored⟩, []⟩
    let environment : Environment := [(metadataHostVariable, [])]
    (⟨some "", none, some "", none⟩ : Connection).Indistinguishable .empty ∧
      Ambient.SearchedAlike world.environment environment ∧
      ((Ambient.discover none []).runIn { world with environment }).1 =
          ((Ambient.discover none []).runIn world).1 ∧
        ((Ambient.discover none []).runIn { world with environment }).2.network =
          ((Ambient.discover none []).runIn world).2.network ∧
        ((Ambient.discover none []).runIn { world with environment }).2.log =
          ((Ambient.discover none []).runIn world).2.log := by
  intro world environment
  have hsame : (⟨some "", none, some "", none⟩ : Connection).SameUpToEmpty .empty := by
    intro setting
    cases setting with
    | keyPath => exact .empty
    | keyData => exact .same none
    | scope => exact .empty
    | project => exact .same none
  have hsearched : Ambient.SearchedAlike world.environment environment := by
    intro name hname
    simp only [Ambient.searchedVariables, List.mem_cons, List.not_mem_nil, or_false] at hname
    obtain rfl | rfl := hname
    · show UpToEmpty [] (some []) none
      exact .empty
    · show UpToEmpty [] none (some [])
      exact .absent
  exact ⟨(empty_counts_as_absent.1 _ _).2 hsame, hsearched,
    empty_counts_as_absent.2 none [] world environment hsearched⟩

end CloudCredentials
