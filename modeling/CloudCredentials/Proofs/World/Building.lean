import CloudCredentials.Resolver
import CloudCredentials.ServiceAccount.Source

/-!
# How actions are built

A property of actions is `Closed` if the basic actions have it, and actions one after the other if
each of them has. It may be one that allows some messages in the log only. What is closed under
these steps holds of every action that is built with them: there is one lemma for each action of the
library that looks for keys, for connections or for projects.
-/

namespace CloudCredentials

/-- The messages of a search of the surroundings. -/
def Ambient.messages : List String :=
  ["loading ambient credentials from " ++ keyFileVariable, "metadata server unreachable",
    "metadata server did not identify itself"]

/-- The messages of a registry. -/
def Registry.messages : List String := ["loaded connection from environment"]

namespace Action

/-- `Closed holds allows` says that a property holds of actions as they are built, where events have
messages that are allowed. -/
structure Closed (holds : ∀ α : Type, Action α → Prop) (allows : String → Prop) : Prop where
  of_pure {α : Type} (value : α) : holds α (pure value)
  of_throw {α : Type} (error : Error) : holds α (throw error)
  of_ofExcept {α : Type} (outcome : Except Error α) : holds α (ofExcept outcome)
  of_ask {α : Type} (view : World → α) : holds α (ask view)
  of_send (request : Http.Request) : holds _ (send request)
  of_report {message : String} (h : allows message) (level : Level) (speaker : Speaker)
    (fields : List LogField) : holds Unit (report level speaker message fields)
  of_bind {α β : Type} {action : Action α} {next : α → Action β} (h : holds α action)
    (hnext : ∀ value, holds β (next value)) : holds β (action >>= next)

namespace Closed

variable {holds : ∀ α : Type, Action α → Prop} {allows : String → Prop}

/-! ## Keys and ambient credentials -/

/-- Reading a key file is looking at the world. -/
theorem ofFile (h : Closed holds allows) (path : String) :
    holds _ (ServiceAccountKey.ofFile path) := by
  refine h.of_bind (h.of_ask id) fun world => ?_
  cases world.files.readText path with
  | error fault => exact h.of_throw _
  | ok text => exact h.of_ofExcept _

/-- Making a key is reading its source. -/
theorem key (h : Closed holds allows) (request : KeyRequest) : holds _ request.key := by
  have hsource : holds _ request.source.key := by
    cases request.source with
    | text document => exact h.of_ofExcept _
    | formText document => exact h.of_ofExcept _
    | file path => exact h.ofFile path
    | members clientEmail privateKey => exact h.of_pure _
  refine h.of_bind hsource fun key => ?_
  cases request.tokenUri with
  | some tokenUri => exact h.of_pure _
  | none => exact h.of_pure _

/-- Searching the surroundings is looking for a key file and asking the metadata server. -/
theorem discover (h : Closed holds allows)
    (hmessages : ∀ message ∈ Ambient.messages, allows message) (given : Option String)
    (scopes : List String) :
    holds _ (Ambient.discover given scopes) := by
  have hkeyFile : holds _ (Ambient.fromKeyFile scopes) := by
    refine h.of_bind (h.of_bind (h.of_ask _) fun _ => h.of_pure _) fun path => ?_
    cases path with
    | none => exact h.of_pure none
    | some path =>
        exact h.of_bind (h.of_report (hmessages _ (by decide)) _ _ _) fun _ =>
          h.of_bind (h.ofFile path) fun _ => h.of_pure _
  have hmachine : holds _ (Ambient.fromMachine given scopes) := by
    refine h.of_bind (h.of_ask _) fun root => h.of_bind (h.of_send _) fun outcome => ?_
    cases outcome with
    | error fault =>
        exact h.of_bind (h.of_report (hmessages _ (by decide)) _ _ _) fun _ => h.of_pure none
    | ok response =>
        simp only
        split
        · exact h.of_pure _
        · exact h.of_bind (h.of_report (hmessages _ (by decide)) _ _ _) fun _ => h.of_pure none
  refine h.of_bind hkeyFile fun found => ?_
  cases found with
  | some credentials => exact h.of_pure credentials
  | none =>
      refine h.of_bind hmachine fun found => ?_
      cases found with
      | some credentials => exact h.of_pure credentials
      | none => exact h.of_throw _

/-- Looking for ambient credentials is searching the surroundings, or nothing. -/
theorem ambient (h : Closed holds allows)
    (hmessages : ∀ message ∈ Ambient.messages, allows message) (source : AmbientSource)
    (scopes : List String) : holds _ (source.discover scopes) := by
  cases source with
  | surroundings => exact h.discover hmessages none scopes
  | token bearer => exact h.of_pure _
  | machine root => exact h.of_pure _
  | failing error => exact h.of_throw error

/-! ## Connections and projects -/

/-- Finding a connection is looking among the stored ones or at a variable. -/
theorem find (h : Closed holds allows)
    (hmessages : ∀ message ∈ Registry.messages, allows message) (registry : Registry)
    (identifier : String) : holds _ (registry.find identifier) := by
  cases registry with
  | stored connections => exact h.of_ofExcept _
  | environment variableStart =>
      refine h.of_bind (h.of_ask _) fun text => ?_
      cases text with
      | none => exact h.of_throw _
      | some text =>
          exact h.of_bind (h.of_report (hmessages _ (by decide)) _ _ _) fun _ => h.of_ofExcept _

/-- Making a resolver for a connection of a registry is finding the connection. -/
theorem ofRegistry (h : Closed holds allows)
    (hmessages : ∀ message ∈ Registry.messages, allows message) (options : ResolverOptions)
    (registry : Registry) : holds _ (Resolver.ofRegistry options registry) :=
  h.of_bind (h.find hmessages registry _) fun _ => h.of_pure _

/-- Running an operation on a project is running the operation, if there is a project. -/
theorem withChosenProject (h : Closed holds allows) {Parameters α : Type}
    [ProjectScoped Parameters] (default : Option String) (parameters : Parameters)
    {operation : Parameters → Action α}
    (hoperation : ∀ parameters, holds α (operation parameters)) :
    holds α (CloudCredentials.withChosenProject default parameters operation) := by
  refine h.of_bind ?_ fun project => hoperation _
  cases chooseProject (ProjectScoped.project parameters) default with
  | ok project => exact h.of_pure project
  | error error => exact h.of_throw error

/-- Running an operation on keyword arguments is running the operation, if there is a project. -/
theorem withChosenProjectArguments (h : Closed holds allows) {α : Type} (default : Option String)
    (call : CallArguments) {operation : CallArguments → Action α}
    (hoperation : ∀ call, holds α (operation call)) :
    holds α (CloudCredentials.withChosenProjectArguments default call operation) := by
  rw [CloudCredentials.withChosenProjectArguments]
  cases call.withProject default with
  | ok call => exact hoperation call
  | error error => exact h.of_throw error

end Closed

end Action

end CloudCredentials
