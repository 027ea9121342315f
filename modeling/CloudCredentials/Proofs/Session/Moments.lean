import CloudCredentials.Proofs.Guard.Acquisition
import CloudCredentials.Proofs.World.Surroundings
import CloudCredentials.Session.Run

/-!
# Moments of a session

An operation keeps at most one resolver and one client under a name and leaves the objects of other
names alone. A `Moment` is a state that a session comes to while the rest of the program changes
the world. What every operation leaves alone is the same at every moment, `view_moment`. Guards
alone, and operations that stand for the rest of the program, change the surroundings:
`surroundings_effect`.
-/

namespace CloudCredentials.Session

open CloudCredentials.Action (closed_leavesSurroundings)

/-! ## Named objects -/

/-- An object stays under its name when another is kept under another name. -/
theorem Named.find?_keep_of_ne {α : Type} (objects : Named α) {name other : ObjectName}
    (object : α) (h : other ≠ name) :
    (Named.keep objects other object).find? name = Named.find? objects name := by
  have hother : (name == other) = false := beq_eq_false_iff_ne.2 h.symm
  show ((other, object) :: objects.filter (·.1 != other)).lookup name = objects.lookup name
  simp only [List.lookup_cons, hother]
  induction objects with
  | nil => rfl
  | cons entry objects ih =>
      obtain ⟨present, kept⟩ := entry
      by_cases hpresent : present = other
      · subst hpresent
        rw [List.filter_cons_of_neg (by simp), List.lookup_cons, hother]
        exact ih
      · rw [List.filter_cons_of_pos (by simpa using hpresent), List.lookup_cons, List.lookup_cons,
          ih]

namespace Operation

/-- The name under which an operation keeps a resolver. -/
def resolverName? : Operation → Option ObjectName
  | .makeResolver name _ _ => some name
  | _ => none

/-- The name under which an operation keeps a client. -/
def clientName? : Operation → Option ObjectName
  | .makeClient name _ => some name
  | .useResolver _ (.client name) => some name
  | _ => none

/-- The operation keeps no resolver under the name. -/
def LeavesResolver (name : ObjectName) (operation : Operation) : Prop :=
  operation.resolverName? ≠ some name

/-- The operation keeps no client under the name. -/
def LeavesClient (name : ObjectName) (operation : Operation) : Prop :=
  operation.clientName? ≠ some name

/-- The operation acquires or releases a guard. -/
def UsesGuard : Operation → Prop
  | .acquireGuard _ _ | .releaseGuard _ => True
  | _ => False

/-- What the operation makes of the surroundings if it stands for the rest of the program. -/
def outside : Operation → Environment × FileSystem → Environment × FileSystem
  | .setVariable name value, (environment, files) => (environment.put name value, files)
  | .setNode path (some node), (environment, files) => (environment, files.write path node)
  | .setNode path none, (environment, files) => (environment, files.remove path)
  | _, surroundings => surroundings

end Operation

/-! ## One operation -/

variable {β : Type}

/-- An action leaves of the objects what the use of its result leaves. -/
theorem State.view_perform {α : Type} {view : Objects → β} (state : State) (action : Action α)
    {finish : Objects → α → Answer × Objects}
    (h : ∀ objects result, view (finish objects result).2 = view objects) :
    view (state.perform action finish).2.objects = view state.objects := by
  rw [perform]
  rcases action.runIn state.world with ⟨outcome, after⟩
  cases outcome with
  | ok result => exact h state.objects result
  | error error => rfl

/-- An action is performed in the world of the state. -/
theorem State.world_perform {α : Type} (state : State) (action : Action α)
    (finish : Objects → α → Answer × Objects) :
    (state.perform action finish).2.world = (action.runIn state.world).2 := by
  rw [perform]
  rcases action.runIn state.world with ⟨outcome, after⟩
  cases outcome with
  | ok result => rfl
  | error error => rfl

/-- A step that cannot do without an object leaves what every use of the object leaves. -/
theorem view_withObject {α : Type} (view : State → β) {state : State} (object : Option α)
    {use : α → Effect} (h : ∀ found, view (use found).2 = view state) :
    view (withObject state object use).2 = view state := by
  cases object with
  | some found => exact h found
  | none => rfl

/-- An operation leaves of the objects whatever does not depend on credentials, guards and stored
connections, nor on resolvers and clients of the names under which the operation keeps one. -/
theorem view_effect (view : Objects → β) {operation : Operation}
    (hconnections : ∀ objects connections, view { objects with connections } = view objects)
    (hcredentials : ∀ objects credentials, view { objects with credentials } = view objects)
    (hguards : ∀ objects guards, view { objects with guards } = view objects)
    (hresolvers : ∀ name, operation.resolverName? = some name → ∀ objects resolver,
      view { objects with resolvers := objects.resolvers.keep name resolver } = view objects)
    (hclients : ∀ name, operation.clientName? = some name → ∀ objects client,
      view { objects with clients := objects.clients.keep name client } = view objects)
    (state : State) : view (operation.effect state).2.objects = view state.objects := by
  have hkeep : ∀ name objects credentials,
      view (State.keepCredentials name objects credentials).2 = view objects := by
    intro name objects credentials
    cases name with
    | some name => exact hcredentials objects _
    | none => rfl
  cases operation with
  | setVariable name value => rfl
  | readVariable name => rfl
  | setNode path node => cases node <;> rfl
  | addReplies replies => rfl
  | insertConnection identifier connection => exact hconnections _ _
  | findConnection registry identifier => exact state.view_perform _ fun _ _ => rfl
  | makeResolver name connection options =>
      exact state.view_perform _ fun objects resolver => hresolvers name rfl objects resolver
  | useResolver name use =>
      refine view_withObject (fun state => view state.objects) _ fun resolver => ?_
      cases use with
      | credentials keepAs => exact state.view_perform _ (hkeep keepAs)
      | accessToken => exact state.view_perform _ fun _ _ => rfl
      | client keepAs =>
          exact state.view_perform _ fun objects client => hclients keepAs rfl objects client
      | field name default => rfl
      | connection => rfl
      | shown => rfl
      | withProject parameters failure => exact state.view_perform _ fun _ _ => rfl
      | withProjectArguments call failure => exact state.view_perform _ fun _ _ => rfl
  | makeCredentials name plan => exact state.view_perform _ (hkeep (some name))
  | useCredentials name use =>
      refine view_withObject (fun state => view state.objects) _ fun credentials => ?_
      cases use with
      | withSubject subject keepAs => exact state.view_perform _ (hkeep (some keepAs))
      | token => exact state.view_perform _ fun _ _ => rfl
      | description => rfl
      | shown => rfl
  | makeClient name plan =>
      show view (state.makeClient name plan).2.objects = _
      rw [State.makeClient]
      cases state.client? plan with
      | none => rfl
      | some client => exact hclients name rfl state.objects client
  | useClient name use =>
      refine view_withObject (fun state => view state.objects) _ fun client => ?_
      cases use with
      | headers headers => exact state.view_perform _ fun _ _ => rfl
      | request method address headers body => exact state.view_perform _ fun _ _ => rfl
  | acquireGuard name connection =>
      show view (state.acquireGuard name connection).2.objects = _
      rw [State.acquireGuard]
      rcases (Guard.acquire connection).runIn state.world with ⟨outcome, after⟩
      cases outcome with
      | error error => rfl
      | ok guard =>
          simp only
          cases state.objects.guards.find? name with
          | some replaced => exact hguards state.objects _
          | none => exact hguards state.objects _
  | releaseGuard name =>
      refine view_withObject (fun state => view state.objects) _ fun guard => ?_
      exact hguards state.objects _

section Built

variable {holds : ∀ α : Type, Action α → Prop} {allows : String → Prop}

/-- Handing parameters back is a result or an error. -/
theorem closed_handBack (h : Action.Closed holds allows) {α : Type} (failure : Option Error)
    (parameters : α) : holds α (handBack failure parameters) := by
  cases failure with
  | some error => exact h.of_throw error
  | none => exact h.of_pure parameters

/-- Making credentials by a plan is making a key, searching the surroundings, or nothing. -/
theorem closed_credentialsOf (h : Action.Closed holds allows)
    (hmessages : ∀ message ∈ Ambient.messages, allows message) (plan : CredentialsPlan) :
    holds _ (State.credentialsOf plan) := by
  cases plan with
  | ofKey request scopes => exact h.of_bind (h.key request) fun _ => h.of_pure _
  | ofMachine root scopes => exact h.of_pure _
  | ofToken token scopes => exact h.of_pure _
  | discovered metadataRoot scopes => exact h.discover hmessages metadataRoot scopes

end Built

/-- An action that leaves the surroundings leaves them when it is performed. -/
theorem State.surroundings_perform {α : Type} (state : State) {action : Action α}
    (h : action.LeavesSurroundings) (finish : Objects → α → Answer × Objects) :
    (state.perform action finish).2.world.surroundings = state.world.surroundings := by
  rw [state.world_perform action finish]
  exact h state.world

/-- Asking a resolver leaves the surroundings. -/
theorem State.surroundings_useResolver (state : State) (resolver : Resolver) (use : ResolverUse) :
    (state.useResolver resolver use).2.world.surroundings = state.world.surroundings := by
  cases use with
  | credentials keepAs => exact state.surroundings_perform resolver.leaves_credentials _
  | accessToken =>
      exact state.surroundings_perform (resolver.leaves_credentials.bind leaves_token) _
  | client keepAs =>
      exact state.surroundings_perform
        (resolver.leaves_credentials.bind fun _ => Action.leaves_pure _) _
  | field name default => rfl
  | connection => rfl
  | shown => rfl
  | withProject parameters failure =>
      refine state.surroundings_perform
        (closed_leavesSurroundings.withChosenProject _ parameters fun parameters => ?_) _
      exact closed_handBack closed_leavesSurroundings failure parameters
  | withProjectArguments call failure =>
      refine state.surroundings_perform
        (closed_leavesSurroundings.withChosenProjectArguments _ call fun call => ?_) _
      exact closed_handBack closed_leavesSurroundings failure call

/-- Operations that do not use a guard change the surroundings only where they stand for the rest of
the program. -/
theorem surroundings_effect {operation : Operation} (h : ¬ operation.UsesGuard) (state : State) :
    (operation.effect state).2.world.surroundings =
      operation.outside state.world.surroundings := by
  cases operation with
  | setVariable name value => rfl
  | readVariable name => rfl
  | setNode path node => cases node <;> rfl
  | addReplies replies => rfl
  | insertConnection identifier connection => rfl
  | findConnection registry identifier =>
      exact state.surroundings_perform
        (closed_leavesSurroundings.find (fun _ _ => trivial) _ identifier) _
  | makeResolver name connection options =>
      refine state.surroundings_perform ?_ _
      cases connection with
      | given connection => exact Action.leaves_pure _
      | found registry =>
          exact closed_leavesSurroundings.ofRegistry (fun _ _ => trivial) options _
  | useResolver name use =>
      exact view_withObject (fun state => state.world.surroundings) _
        fun resolver => state.surroundings_useResolver resolver use
  | makeCredentials name plan =>
      exact state.surroundings_perform
        (closed_credentialsOf closed_leavesSurroundings (fun _ _ => trivial) plan) _
  | useCredentials name use =>
      refine view_withObject (fun state => state.world.surroundings) _
        fun credentials => ?_
      cases use with
      | withSubject subject keepAs => exact state.surroundings_perform (Action.leaves_ofExcept _) _
      | token => exact state.surroundings_perform (leaves_token credentials) _
      | description => rfl
      | shown => rfl
  | makeClient name plan =>
      show (state.makeClient name plan).2.world.surroundings = _
      rw [State.makeClient]
      cases state.client? plan with
      | none => rfl
      | some client => rfl
  | useClient name use =>
      refine view_withObject (fun state => state.world.surroundings) _ fun client => ?_
      cases use with
      | headers headers =>
          exact state.surroundings_perform (leaves_prepareHeaders client headers) _
      | request method address headers body =>
          exact state.surroundings_perform (leaves_request client method address headers body) _
  | acquireGuard name connection => exact absurd trivial h
  | releaseGuard name => exact absurd trivial h

/-! ## Steps and runs -/

mutual

/-- Every operation of a step is allowed. -/
def Step.All (allowed : Operation → Prop) : Step → Prop
  | .operation operation => allowed operation
  | .withCredentialFile _ steps _ => allSteps allowed steps

/-- Every operation of steps is allowed. -/
def allSteps (allowed : Operation → Prop) : List Step → Prop
  | [] => True
  | step :: steps => step.All allowed ∧ allSteps allowed steps

end

/-- The state after steps that have been run while the key of a connection was exported. -/
def afterNested (state : State) (connection : Connection) (steps : List Step) : State :=
  match (Guard.acquire connection).runIn state.world with
  | (.error _, after) => { state with world := after }
  | (.ok guard, opened) =>
      let last := (runSteps ⟨opened, state.objects⟩ steps).2
      ⟨guard.releaseIn last.world, last.objects⟩

/-- Steps that are run while a key is exported come between acquiring a guard and releasing it. -/
theorem snd_runStep_withCredentialFile {state : State} {source : ObjectName ⊕ Connection}
    {connection : Connection} (h : state.connection? source = some connection) (steps : List Step)
    (failure : Option Error) :
    (runStep state (.withCredentialFile source steps failure)).2 =
      afterNested state connection steps := by
  rw [runStep, afterNested]
  simp only [h, Guard.runIn_withCredentialFile]
  rcases (Guard.acquire connection).runIn state.world with ⟨outcome, opened⟩
  cases outcome with
  | error error => rfl
  | ok guard => rfl

/-- Steps that are to be run with the key of a connection that is not there are not run. -/
theorem snd_runStep_of_none {state : State} {source : ObjectName ⊕ Connection}
    (h : state.connection? source = none) (steps : List Step) (failure : Option Error) :
    (runStep state (.withCredentialFile source steps failure)).2 = state := by
  rw [runStep]
  simp only [h]

section Runs

variable {view : Objects → β} {allowed : Operation → Prop}

mutual

/-- A step leaves of the objects what all of its operations leave. -/
theorem view_runStep
    (h : ∀ operation state, allowed operation →
      view (Operation.effect state operation).2.objects = view state.objects) (state : State) :
    ∀ step : Step, step.All allowed → view (runStep state step).2.objects = view state.objects
  | .operation operation, hallowed => h operation state hallowed
  | .withCredentialFile source steps failure, hallowed => by
      cases hsource : state.connection? source with
      | none => rw [snd_runStep_of_none hsource]
      | some connection =>
          rw [snd_runStep_withCredentialFile hsource, afterNested]
          rcases (Guard.acquire connection).runIn state.world with ⟨outcome, opened⟩
          cases outcome with
          | error error => rfl
          | ok guard => exact view_runSteps h ⟨opened, state.objects⟩ steps hallowed

/-- Steps leave of the objects what all of their operations leave. -/
theorem view_runSteps
    (h : ∀ operation state, allowed operation →
      view (Operation.effect state operation).2.objects = view state.objects) (state : State) :
    ∀ steps : List Step, allSteps allowed steps →
      view (runSteps state steps).2.objects = view state.objects
  | [], _ => rfl
  | step :: steps, hallowed => by
      have hfirst := view_runStep h state step hallowed.1
      cases hstep : (runStep state step).1 with
      | none => rw [runSteps_cons_of_none hstep, hfirst]
      | some report =>
          rw [runSteps_cons_of_some hstep]
          exact (view_runSteps h (runStep state step).2 steps hallowed.2).trans hfirst

end

/-- `Moment allowed start state` says that a session with allowed operations that is in the state
`start` comes to the state `state`, while the rest of the program changes the world at will. -/
inductive Moment (allowed : Operation → Prop) (start : State) : State → Prop where
  | start : Moment allowed start start
  /-- After one more step. -/
  | step {moment : State} (step : Step) (hmoment : Moment allowed start moment)
      (h : step.All allowed) : Moment allowed start (runStep moment step).2
  /-- In another world, such as the one in which steps are run while a key is exported. -/
  | meanwhile {moment : State} (world : World) (hmoment : Moment allowed start moment) :
      Moment allowed start ⟨world, moment.objects⟩

/-- What every allowed operation leaves of the objects is the same at every moment. -/
theorem view_moment (view : Objects → β)
    (h : ∀ operation state, allowed operation →
      view (Operation.effect state operation).2.objects = view state.objects)
    {start state : State} (hmoment : Moment allowed start state) :
    view state.objects = view start.objects := by
  induction hmoment with
  | start => rfl
  | step step _ hstep ih => exact (view_runStep h _ step hstep).trans ih
  | meanwhile world _ ih => exact ih

/-- The state after steps is a moment. -/
theorem moment_runSteps {start state : State} (hmoment : Moment allowed start state)
    {steps : List Step} (h : allSteps allowed steps) :
    Moment allowed start (runSteps state steps).2 := by
  induction steps generalizing state with
  | nil => exact hmoment
  | cons step steps ih =>
      have hnext : Moment allowed start (runStep state step).2 := .step step hmoment h.1
      cases hstep : (runStep state step).1 with
      | none =>
          rw [runSteps_cons_of_none hstep]
          exact hnext
      | some report =>
          rw [runSteps_cons_of_some hstep]
          exact ih hnext h.2

end Runs

/-- A resolver is found at every moment until one is kept under its name. -/
theorem find?_resolvers_moment {name : ObjectName} {start state : State}
    (h : Moment (Operation.LeavesResolver name) start state) :
    state.objects.resolvers.find? name = start.objects.resolvers.find? name := by
  refine view_moment (fun objects => objects.resolvers.find? name) ?_ h
  intro operation state hleaves
  refine view_effect (fun objects => objects.resolvers.find? name) (fun _ _ => rfl)
    (fun _ _ => rfl) (fun _ _ => rfl) ?_ (fun _ _ _ _ => rfl) state
  intro other hother objects resolver
  refine Named.find?_keep_of_ne objects.resolvers resolver ?_
  rintro rfl
  exact hleaves hother

/-- A client is found at every moment until one is kept under its name. -/
theorem find?_clients_moment {name : ObjectName} {start state : State}
    (h : Moment (Operation.LeavesClient name) start state) :
    state.objects.clients.find? name = start.objects.clients.find? name := by
  refine view_moment (fun objects => objects.clients.find? name) ?_ h
  intro operation state hleaves
  refine view_effect (fun objects => objects.clients.find? name) (fun _ _ => rfl)
    (fun _ _ => rfl) (fun _ _ => rfl) (fun _ _ _ _ => rfl) ?_ state
  intro other hother objects client
  refine Named.find?_keep_of_ne objects.clients client ?_
  rintro rfl
  exact hleaves hother

/-- The program stops in no operation that does not use a guard. -/
theorem fst_runStep_of_not_usesGuard {operation : Operation} (h : ¬ operation.UsesGuard)
    (state : State) :
    (runStep state (.operation operation)).1 =
      some (reportBetween state.world (operation.effect state).2.world
        (operation.effect state).1) := by
  have hgoes : operation.stops (operation.effect state).1 = false := by
    refine Operation.stops_eq_false ?_ _
    rintro name connection rfl
    exact h trivial
  rw [runStep]
  simp only [hgoes, Bool.false_eq_true, if_false]

/-- Operations without guards make of the surroundings what those make of them that stand for the
rest of the program. -/
theorem surroundings_runSteps (state : State) (operations : List Operation)
    (h : ∀ operation ∈ operations, ¬ operation.UsesGuard) :
    (runSteps state (operations.map .operation)).2.world.surroundings =
      operations.foldl (fun surroundings operation => operation.outside surroundings)
        state.world.surroundings := by
  induction operations generalizing state with
  | nil => rfl
  | cons operation operations ih =>
      rw [List.forall_mem_cons] at h
      rw [List.map_cons, runSteps_cons_of_some (fst_runStep_of_not_usesGuard h.1 state),
        List.foldl_cons, ← surroundings_effect h.1 state]
      exact ih (operation.effect state).2 h.2

end CloudCredentials.Session
