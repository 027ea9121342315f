import CloudCredentials.Session.Report

/-!
# Running sessions

A session has a world, a registry of connections and the objects that its steps have made. A step
that fails makes no object, and one that uses an object the session does not keep changes nothing.
`run` is the reports of the steps in order. There are none if the program stops in a step, which is
then the last one.
-/

namespace CloudCredentials.Session

/-- Objects of one type by name. -/
abbrev Named (α : Type) := List (ObjectName × α)

/-- The objects with one more, in the place of an earlier one of its name. -/
def Named.keep {α : Type} (objects : Named α) (name : ObjectName) (object : α) : Named α :=
  (name, object) :: objects.filter (·.1 != name)

/-- The objects without the one of a name. -/
def Named.drop {α : Type} (objects : Named α) (name : ObjectName) : Named α :=
  objects.filter (·.1 != name)

/-- The object of a name. -/
def Named.find? {α : Type} (objects : Named α) (name : ObjectName) : Option α :=
  objects.lookup name

/-- The object that has been kept under a name is found there. -/
@[simp] theorem Named.find?_keep_self {α : Type} (objects : Named α) (name : ObjectName)
    (object : α) : Named.find? (Named.keep objects name object) name = some object := by
  simp [Named.find?, Named.keep]

/-- What a session keeps. -/
structure Objects where
  connections : Connections
  resolvers : Named Resolver
  credentials : Named Credentials
  clients : Named Client
  guards : Named Guard

/-- A session without objects. -/
def Objects.empty : Objects := ⟨[], [], [], [], []⟩

/-- The state of a session. -/
structure State where
  world : World
  objects : Objects

/-- The outcome of a step and the state after it. -/
abbrev Effect := Except Error Answer × State

namespace State

/-- The state after a step that changes nothing. -/
def answering (state : State) (answer : Answer) : Effect := (.ok answer, state)

/-- Run an action. Its result gives the answer and the objects. -/
def perform {α : Type} (state : State) (action : Action α)
    (finish : Objects → α → Answer × Objects) : Effect :=
  match action.runIn state.world with
  | (.ok result, world) =>
      let (answer, objects) := finish state.objects result
      (.ok answer, ⟨world, objects⟩)
  | (.error error, world) => (.error error, ⟨world, state.objects⟩)

/-- Run an action whose result gives the answer alone. -/
def tell {α : Type} (state : State) (action : Action α) (answer : α → Answer) : Effect :=
  state.perform action fun objects result => (answer result, objects)

/-- The state with another environment. -/
def withEnvironment (state : State) (environment : Environment) : State :=
  { state with world := { state.world with environment } }

/-- The state with other files. -/
def withFiles (state : State) (files : FileSystem) : State :=
  { state with world := { state.world with files } }

/-- The state with another network. -/
def withNetwork (state : State) (network : Http.Network) : State :=
  { state with world := { state.world with network } }

/-- The registry that a plan means. -/
def registry (state : State) : RegistryPlan → Registry
  | .stored => .stored state.objects.connections
  | .environment variableStart => .environment variableStart

/-- Keep credentials. -/
def keepCredentials (name : Option ObjectName) (objects : Objects) (credentials : Credentials) :
    Answer × Objects :=
  (.credentials credentials,
    match name with
    | some name => { objects with credentials := objects.credentials.keep name credentials }
    | none => objects)

/-- Make and keep a resolver. -/
def makeResolver (state : State) (name : ObjectName) (connection : ConnectionPlan)
    (options : ResolverOptions) : Effect :=
  let action : Action Resolver :=
    match connection with
    | .given connection => return .ofConnection options connection
    | .found registry => Resolver.ofRegistry options (state.registry registry)
  state.perform action fun objects resolver =>
    (.resolver resolver, { objects with resolvers := objects.resolvers.keep name resolver })

/-- Ask a resolver. -/
def useResolver (state : State) (resolver : Resolver) : ResolverUse → Effect
  | .credentials name => state.perform resolver.credentials (keepCredentials name)
  | .accessToken => state.tell resolver.accessToken (.text ∘ some)
  | .client name =>
      state.perform resolver.client fun objects client =>
        (.nothing, { objects with clients := objects.clients.keep name client })
  | .field name default => state.answering (.text (resolver.field name default))
  | .connection => state.answering (.connection resolver.connection)
  | .shown => state.answering (.text resolver.shown)
  | .withProject parameters failure =>
      state.tell (resolver.withProject parameters (handBack failure)) .parameters
  | .withProjectArguments call failure =>
      state.tell (resolver.withProjectArguments call (handBack failure)) .call

/-- Make credentials. -/
def credentialsOf : CredentialsPlan → Action Credentials
  | .ofKey request scopes => return .ofKey (← request.key) scopes
  | .ofMachine root scopes => return .ofMachine root scopes
  | .ofToken token scopes => return .ofToken token scopes
  | .discovered metadataRoot scopes => Ambient.discover metadataRoot scopes

/-- Ask credentials. -/
def useCredentials (state : State) (credentials : Credentials) : CredentialsUse → Effect
  | .withSubject subject name =>
      state.perform (Action.ofExcept (credentials.withSubject subject))
        (keepCredentials (some name))
  | .token => state.tell credentials.token (.text ∘ some)
  | .description => state.answering (.credentials credentials)
  | .shown => state.answering (.text credentials.shown)

/-- The provider of a plan, if the session keeps the credentials that it needs. -/
def provider? (state : State) : ProviderPlan → Option TokenProvider
  | .fixed token => some (.fixed token)
  | .failing error => some (.failing error)
  | .kept name => (state.objects.credentials.find? name).map .credentials

/-- The decoration of a plan, if the session keeps the credentials that it needs. -/
def decoration? (state : State) : DecorationPlan → Option Decoration
  | .userAgent product => some (.userAgent product)
  | .bearer provider => (state.provider? provider).map .bearer

/-- The client of a plan, if the session keeps the credentials that it needs. -/
def client? (state : State) : ClientPlan → Option Client
  | .usual provider userAgent =>
      (state.provider? provider).map fun provider => .withCredentials provider userAgent
  | .decorated decorations => (decorations.mapM state.decoration?).map .mk

/-- Make and keep a client. -/
def makeClient (state : State) (name : ObjectName) (plan : ClientPlan) : Effect :=
  match state.client? plan with
  | none => state.answering .noSuchObject
  | some client =>
      (.ok .nothing,
        { state with objects :=
          { state.objects with clients := state.objects.clients.keep name client } })

/-- Ask a client. -/
def useClient (state : State) (client : Client) : ClientUse → Effect
  | .headers headers =>
      state.tell (client.prepareHeaders headers) fun prepared =>
        .headers (Http.Headers.sorted prepared)
  | .request method address headers body =>
      state.tell (client.request method address headers body) .response

/-- What the variable that names a key file holds. -/
def keyFileView (state : State) : VariableView :=
  viewVariable state.world keyFileVariable

/-- The state after a guard has been released. -/
def releasing (state : State) (guard : Guard) : State :=
  { state with world := guard.releaseIn state.world }

/-- Acquire and keep a guard. The one that had its name is released after that. -/
def acquireGuard (state : State) (name : ObjectName) (connection : Connection) : Effect :=
  match (Guard.acquire connection).runIn state.world with
  | (.error error, world) => (.error error, { state with world })
  | (.ok guard, world) =>
      let objects := { state.objects with guards := state.objects.guards.keep name guard }
      let state :=
        match state.objects.guards.find? name with
        | some replaced => releasing ⟨world, objects⟩ replaced
        | none => ⟨world, objects⟩
      (.ok (.acquired (guard.exported.map maskedPath) state.keyFileView), state)

/-- Release a guard, which the session then keeps no longer. -/
def releaseGuard (state : State) (name : ObjectName) (guard : Guard) : Effect :=
  let objects := { state.objects with guards := state.objects.guards.drop name }
  let state := releasing { state with objects } guard
  (.ok (.released (guard.exported.map state.world.files.exists?) state.keyFileView), state)

/-- The connection that a step names. -/
def connection? (state : State) : ObjectName ⊕ Connection → Option Connection
  | .inl name => (state.objects.resolvers.find? name).map Resolver.connection
  | .inr connection => some connection

end State

/-- An object of a name, for a step that cannot do without it. -/
def withObject {α : Type} (state : State) (object : Option α) (use : α → Effect) : Effect :=
  match object with
  | some object => use object
  | none => state.answering .noSuchObject

/-- Run an operation. -/
def Operation.effect (state : State) : Operation → Effect
  | .setVariable name value =>
      (.ok .nothing, state.withEnvironment (state.world.environment.put name value))
  | .readVariable name => state.answering (.variableView (viewVariable state.world name))
  | .setNode path (some node) => (.ok .nothing, state.withFiles (state.world.files.write path node))
  | .setNode path none => (.ok .nothing, state.withFiles (state.world.files.remove path))
  | .addReplies replies =>
      let network := state.world.network
      (.ok .nothing, state.withNetwork { network with replies := network.replies ++ replies })
  | .insertConnection identifier connection =>
      (.ok .nothing,
        { state with objects := { state.objects with
          connections := state.objects.connections.insert identifier connection } })
  | .findConnection registry identifier =>
      state.tell ((state.registry registry).find identifier) .connection
  | .makeResolver name connection options => state.makeResolver name connection options
  | .useResolver name use =>
      withObject state (state.objects.resolvers.find? name) fun resolver =>
        state.useResolver resolver use
  | .makeCredentials name plan =>
      state.perform (State.credentialsOf plan) (State.keepCredentials (some name))
  | .useCredentials name use =>
      withObject state (state.objects.credentials.find? name) fun credentials =>
        state.useCredentials credentials use
  | .makeClient name plan => state.makeClient name plan
  | .useClient name use =>
      withObject state (state.objects.clients.find? name) fun client => state.useClient client use
  | .acquireGuard name connection => state.acquireGuard name connection
  | .releaseGuard name =>
      withObject state (state.objects.guards.find? name) fun guard => state.releaseGuard name guard

/-- The requests that the network has seen from one world to a later one. -/
def requestsBetween (before after : World) : List Http.SeenRequest :=
  after.network.seen.drop before.network.seen.length

/-- The events that were logged from one world to a later one. -/
def eventsBetween (before after : World) : List Event :=
  after.log.drop before.log.length

/-- The report of a step that led from one world to another. -/
def reportBetween (before after : World) (outcome : Except Error Answer) : Report :=
  .of outcome (requestsBetween before after) (eventsBetween before after)

/-- The run of nested steps: the worlds before and after them, the objects after them, and their
reports. -/
structure Nested where
  before : World
  after : World
  objects : Objects
  reports : Option (List Report)

/-- The operation stops the program, because the environment does not take the path of a key file. An
error that an operation is told to hand back stops nothing. -/
def Operation.stops (operation : Operation) (outcome : Except Error Answer) : Bool :=
  match operation, outcome with
  | .acquireGuard _ _, .error error => !error.isReported
  | _, _ => false

mutual

/-- Run a step. There is no report if the program stops in it. -/
def runStep (state : State) : Step → Option Report × State
  | .operation operation =>
      let (outcome, after) := operation.effect state
      (if operation.stops outcome then none
        else some (reportBetween state.world after.world outcome), after)
  | .withCredentialFile source steps failure =>
      match state.connection? source with
      | none => (some (reportBetween state.world state.world (.ok .noSuchObject)), state)
      | some connection =>
          -- A nested run that is to fail keeps its objects, so its failure comes after it. One that
          -- stops has its guard released on the way out.
          let body : Action Nested := fun before =>
            let (reports, nested) := runSteps ⟨before, state.objects⟩ steps
            (.ok ⟨before, nested.world, nested.objects, reports⟩, nested.world)
          match (withCredentialFile connection body).runIn state.world with
          | (.error error, world) =>
              (if error.isReported then some (reportBetween state.world world (.error error))
                else none, { state with world })
          | (.ok run, world) =>
              let report (reports : List Report) : Report :=
                let outcome : Except Error Answer :=
                  match failure with
                  | some error => .error error
                  | none => .ok (.nested (viewVariable run.before keyFileVariable) reports)
                .of outcome
                  (requestsBetween state.world run.before ++ requestsBetween run.after world)
                  (eventsBetween state.world run.before ++ eventsBetween run.after world)
              (run.reports.map report, ⟨world, run.objects⟩)

/-- Run steps one after the other. If the program stops in one of them, there are no reports, and the
steps after that one are not run. -/
def runSteps (state : State) : List Step → Option (List Report) × State
  | [] => (some [], state)
  | step :: steps =>
      match runStep state step with
      | (none, stopped) => (none, stopped)
      | (some report, next) =>
          let (reports, last) := runSteps next steps
          (reports.map (report :: ·), last)

end

/-- No operation stops the program but acquiring a guard. -/
theorem Operation.stops_eq_false {operation : Operation}
    (h : ∀ name connection, operation ≠ .acquireGuard name connection)
    (outcome : Except Error Answer) : operation.stops outcome = false := by
  cases operation with
  | acquireGuard name connection => exact absurd rfl (h name connection)
  | _ => rfl

/-- The program stops in an operation exactly if the operation stops it. -/
theorem fst_runStep_operation (state : State) (operation : Operation) :
    (runStep state (.operation operation)).1 = none ↔
      operation.stops (operation.effect state).1 = true := by
  simp [runStep]

variable {state : State} {step : Step}

/-- The step in which the program stops is the last one. -/
theorem runSteps_cons_of_none (h : (runStep state step).1 = none) (steps : List Step) :
    runSteps state (step :: steps) = (none, (runStep state step).2) := by
  rw [runSteps]
  rcases hstep : runStep state step with ⟨report, next⟩
  rw [hstep] at h
  cases h
  rfl

/-- After a step with a report the others are run. -/
theorem runSteps_cons_of_some {report : Report} (h : (runStep state step).1 = some report)
    (steps : List Step) :
    runSteps state (step :: steps) =
      ((runSteps (runStep state step).2 steps).1.map (report :: ·),
        (runSteps (runStep state step).2 steps).2) := by
  rw [runSteps]
  rcases hstep : runStep state step with ⟨reported, next⟩
  rw [hstep] at h
  cases h
  rfl

/-- Run a session in a world. -/
def run (world : World) (steps : List Step) : Option (List Report) × World :=
  let (reports, state) := runSteps ⟨world, .empty⟩ steps
  (reports, state.world)

end CloudCredentials.Session
