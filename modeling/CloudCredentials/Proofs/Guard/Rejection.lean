import CloudCredentials.Proofs.Connection.Documents
import CloudCredentials.Proofs.Guard.Acquisition
import CloudCredentials.Proofs.World.Surroundings
import CloudCredentials.Session.Run

/-!
# Key paths that no variable can hold

No variable of the environment can hold a NUL character, and the path of a key file may have one. A
program `Halts` where it gives the variable such a path, and a session `Stops` there.
`acquire_halts_iff` says for which connections and sessions that comes about, that no such path is
held back when a connection is read from a document, and that nothing has changed in the environment
or the files by then.
-/

namespace CloudCredentials

/-- The outcome is an error that callers are not told about. -/
def Halts {α : Type} (outcome : Except Error α) : Prop :=
  ∃ error, outcome = .error error ∧ error.isReported = false

/-- A result does not halt the program. -/
theorem not_halts_ok {α : Type} (value : α) : ¬ Halts (.ok value : Except Error α) := by
  rintro ⟨error, h, _⟩
  cases h

/-- An error halts the program unless callers are told about it. -/
theorem halts_error_iff {α : Type} (error : Error) :
    Halts (.error error : Except Error α) ↔ error.isReported = false := by
  constructor
  · rintro ⟨other, h, hreported⟩
    cases h
    exact hreported
  · intro h
    exact ⟨error, rfl, h⟩

/-- The path of a key file is unfit if no variable can hold it. Key files in the legacy format are
refused before that matters. -/
structure UnfitPath (path : String) : Prop where
  nul : '\x00' ∈ path.toList
  modern : ¬ ∃ stem, path = stem ++ ".p12"

/-- An unfit path is not empty. -/
theorem UnfitPath.ne_empty {path : String} (h : UnfitPath path) : path ≠ "" := by
  rintro rfl
  exact absurd h.nul List.not_mem_nil

namespace Connection

/-- A document that gives the path of a key file. -/
def keyPathDocument (path : String) : String :=
  (Json.Value.object [("extra", .object [(Setting.keyPath.name, .string path)])]).text

/-- Whatever path a document gives, the connection has it. -/
theorem sets_keyPathDocument {path : String} (h : path ≠ "") (identifier : String) :
    ∃ connection, ofDocument identifier (keyPathDocument path) = .ok connection ∧
      connection.Sets .keyPath path := by
  have hreads : (Json.Value.object [(Setting.keyPath.name, .string path)]).ReadsBack
      (Json.greatestDepth - 1) := by
    refine Json.Value.object_readsBack (List.pairwise_singleton _ _) ?_
    rw [List.forall_mem_singleton]
    exact Json.Value.string_readsBack path _
  have hdocument := ofDocument_of_givesExtras (.object (readExtra_text hreads)) identifier
  exact ⟨_, hdocument, rfl, h⟩

end Connection

namespace Guard

variable {connection : Connection} {world after : World} {outcome : Except Error Guard}

/-- Acquiring a guard halts the program for a key file with an unfit path, and for no other
connection. -/
theorem Acquired.halts_iff (h : Acquired connection world outcome after) :
    Halts outcome ↔ ∃ path, connection.Sets .keyPath path ∧ UnfitPath path := by
  cases h with
  | nothing hpath htext =>
      refine iff_of_false (not_halts_ok _) ?_
      rintro ⟨path, hfile, _⟩
      exact hpath path hfile
  | keyFile path hpath hlegacy hnul =>
      refine iff_of_false (not_halts_ok _) ?_
      rintro ⟨other, hother, hunfit⟩
      rw [hother.unique hpath] at hunfit
      exact hnul hunfit.nul
  | legacy path hpath hlegacy =>
      rw [halts_error_iff]
      refine iff_of_false Bool.noConfusion ?_
      rintro ⟨other, hother, hunfit⟩
      rw [hother.unique hpath] at hunfit
      exact hunfit.modern hlegacy
  | rejected path hpath hlegacy hnul =>
      rw [halts_error_iff]
      exact iff_of_true rfl ⟨path, hpath, hnul, hlegacy⟩
  | keyData text path files hpath htext hmade =>
      refine iff_of_false (not_halts_ok _) ?_
      rintro ⟨other, hfile, _⟩
      exact hpath other hfile
  | unmade text path fault hpath htext hmade =>
      rw [halts_error_iff]
      refine iff_of_false Bool.noConfusion ?_
      rintro ⟨other, hfile, _⟩
      exact hpath other hfile

/-- An action with a credential file halts the program if acquiring the guard does, or if the action
does once the guard is there. -/
theorem halts_withCredentialFile_iff {α : Type} (connection : Connection) (action : Action α)
    (world : World) :
    Halts ((withCredentialFile connection action).runIn world).1 ↔
      Halts ((acquire connection).runIn world).1 ∨
        ∃ guard opened, (acquire connection).runIn world = (.ok guard, opened) ∧
          Halts (action.runIn opened).1 := by
  rw [runIn_withCredentialFile]
  rcases (acquire connection).runIn world with ⟨outcome, opened⟩
  cases outcome with
  | error error =>
      show Halts (.error error : Except Error α) ↔ _
      rw [halts_error_iff, halts_error_iff]
      refine ⟨.inl, ?_⟩
      rintro (h | ⟨guard, _, hrun, _⟩)
      · exact h
      · cases hrun
  | ok guard =>
      refine ⟨fun h => .inr ⟨guard, opened, rfl, h⟩, ?_⟩
      rintro (h | ⟨other, after, hrun, h⟩)
      · exact absurd h (not_halts_ok guard)
      · cases hrun
        exact h

/-- Where a guard is not acquired, an action with a credential file leaves the environment and the
files as they are. -/
theorem unchanged_withCredentialFile {α : Type} {error : Error}
    (h : ((acquire connection).runIn world).1 = .error error) (action : Action α) :
    ((withCredentialFile connection action).runIn world).2.surroundings = world.surroundings := by
  have hacquired := acquired_acquire connection world
  rw [h] at hacquired
  rw [runIn_withCredentialFile]
  rcases hrun : (acquire connection).runIn world with ⟨outcome, opened⟩
  rw [hrun] at h hacquired
  cases h
  exact Prod.ext hacquired.unchanged_of_error.1 hacquired.unchanged_of_error.2

end Guard

namespace Session

open Guard (acquired_acquire)

/-! ## Sessions that stop -/

/-- `Stops state steps` says that a session in the state comes to an unfit path when it runs the
steps. -/
inductive Stops : State → List Step → Prop where
  /-- A guard is to be acquired for the path. -/
  | acquiring {state : State} {name : ObjectName} {connection : Connection} {path : String}
      {steps : List Step} (hpath : connection.Sets .keyPath path) (hunfit : UnfitPath path) :
      Stops state (.operation (.acquireGuard name connection) :: steps)
  /-- Steps are to be run while the path is exported. -/
  | exporting {state : State} {source : ObjectName ⊕ Connection} {connection : Connection}
      {path : String} {nested steps : List Step} {failure : Option Error}
      (hsource : state.connection? source = some connection)
      (hpath : connection.Sets .keyPath path) (hunfit : UnfitPath path) :
      Stops state (.withCredentialFile source nested failure :: steps)
  /-- The steps that are run while another path is exported come to an unfit one. -/
  | nested {state : State} {source : ObjectName ⊕ Connection} {connection : Connection}
      {guard : Guard} {opened : World} {nested steps : List Step} {failure : Option Error}
      (hsource : state.connection? source = some connection)
      (hguard : (Guard.acquire connection).runIn state.world = (.ok guard, opened))
      (h : Stops ⟨opened, state.objects⟩ nested) :
      Stops state (.withCredentialFile source nested failure :: steps)
  /-- The steps after the first one come to an unfit path. -/
  | later {state next : State} {step : Step} {report : Report} {steps : List Step}
      (hstep : runStep state step = (some report, next)) (h : Stops next steps) :
      Stops state (step :: steps)

/-- A guard that halts the program is one that a session stops at. -/
theorem runStep_acquireGuard_iff (state : State) (name : ObjectName) (connection : Connection) :
    (runStep state (.operation (.acquireGuard name connection))).1 = none ↔
      ∃ path, connection.Sets .keyPath path ∧ UnfitPath path := by
  rw [fst_runStep_operation, ← (acquired_acquire connection state.world).halts_iff,
    Operation.effect, State.acquireGuard]
  rcases (Guard.acquire connection).runIn state.world with ⟨outcome, after⟩
  cases outcome with
  | error error =>
      show (!error.isReported) = true ↔ _
      rw [halts_error_iff, Bool.not_eq_true']
  | ok guard => exact iff_of_false Bool.false_ne_true (not_halts_ok guard)

/-- A session stops at no other operation. -/
theorem runStep_operation_ne_none {operation : Operation}
    (h : ∀ name connection, operation ≠ .acquireGuard name connection) (state : State) :
    (runStep state (.operation operation)).1 ≠ none := by
  rw [Ne, fst_runStep_operation, Bool.not_eq_true]
  exact Operation.stops_eq_false h _

/-- A session stops at steps that are to be run while a key is exported if it stops at the guard, or
in one of the steps once the guard is there. -/
theorem runStep_withCredentialFile_iff {state : State} {source : ObjectName ⊕ Connection}
    {connection : Connection} (h : state.connection? source = some connection)
    (nested : List Step) (failure : Option Error) :
    (runStep state (.withCredentialFile source nested failure)).1 = none ↔
      (∃ path, connection.Sets .keyPath path ∧ UnfitPath path) ∨
        ∃ guard opened, (Guard.acquire connection).runIn state.world = (.ok guard, opened) ∧
          (runSteps ⟨opened, state.objects⟩ nested).1 = none := by
  have hacquired := (acquired_acquire connection state.world).halts_iff
  rw [← hacquired, runStep]
  simp only [h, Guard.runIn_withCredentialFile]
  rcases (Guard.acquire connection).runIn state.world with ⟨outcome, after⟩
  cases outcome with
  | error error => simp [halts_error_iff]
  | ok guard =>
      show (runSteps ⟨after, state.objects⟩ nested).1.map _ = none ↔ _
      rw [Option.map_eq_none_iff]
      refine ⟨fun hnested => .inr ⟨guard, after, rfl, hnested⟩, ?_⟩
      rintro (hhalts | ⟨other, opened, hrun, hnested⟩)
      · exact absurd hhalts (not_halts_ok guard)
      · cases hrun
        exact hnested

mutual

/-- Where a session stops in a step it comes to an unfit path. -/
theorem stops_of_runStep (state : State) :
    ∀ step : Step, (runStep state step).1 = none → ∀ steps, Stops state (step :: steps)
  | .operation operation, h, steps => by
      by_cases hguard : ∃ name connection, operation = .acquireGuard name connection
      · obtain ⟨name, connection, rfl⟩ := hguard
        obtain ⟨path, hpath, hunfit⟩ := (runStep_acquireGuard_iff state name connection).1 h
        exact .acquiring hpath hunfit
      · refine absurd h (runStep_operation_ne_none ?_ state)
        exact fun name connection heq => hguard ⟨name, connection, heq⟩
  | .withCredentialFile source nested failure, h, steps => by
      cases hsource : state.connection? source with
      | none =>
          rw [runStep] at h
          simp only [hsource] at h
          cases h
      | some connection =>
          obtain ⟨path, hpath, hunfit⟩ | ⟨guard, opened, hguard, hnested⟩ :=
            (runStep_withCredentialFile_iff hsource nested failure).1 h
          · exact .exporting hsource hpath hunfit
          · exact .nested hsource hguard (stops_of_runSteps ⟨opened, state.objects⟩ nested hnested)

/-- Where a session stops it comes to an unfit path. -/
theorem stops_of_runSteps (state : State) :
    ∀ steps : List Step, (runSteps state steps).1 = none → Stops state steps
  | [], h => by cases h
  | step :: steps, h => by
      rcases hstep : runStep state step with ⟨report, next⟩
      cases report with
      | none => exact stops_of_runStep state step (congrArg Prod.fst hstep) steps
      | some report =>
          rw [runSteps_cons_of_some (congrArg Prod.fst hstep), hstep] at h
          exact .later hstep (stops_of_runSteps next steps (Option.map_eq_none_iff.1 h))

end

/-- A session stops exactly if it comes to an unfit path. -/
theorem stops_iff (state : State) (steps : List Step) :
    (runSteps state steps).1 = none ↔ Stops state steps := by
  refine ⟨stops_of_runSteps state steps, fun h => ?_⟩
  -- A session that stops in the first step has no reports, whatever steps come after it.
  have hfirst : ∀ {state step}, (runStep state step).1 = none → ∀ steps,
      (runSteps state (step :: steps)).1 = none := fun hnone steps =>
    congrArg Prod.fst (runSteps_cons_of_none hnone steps)
  induction h with
  | acquiring hpath hunfit =>
      exact hfirst ((runStep_acquireGuard_iff _ _ _).2 ⟨_, hpath, hunfit⟩) _
  | exporting hsource hpath hunfit =>
      exact hfirst ((runStep_withCredentialFile_iff hsource _ _).2 (.inl ⟨_, hpath, hunfit⟩)) _
  | nested hsource hguard _ ih =>
      exact hfirst ((runStep_withCredentialFile_iff hsource _ _).2 (.inr ⟨_, _, hguard, ih⟩)) _
  | later hstep _ ih =>
      rw [runSteps_cons_of_some (congrArg Prod.fst hstep), hstep, ih]
      rfl

/-- What would come after the steps in which a session stops is not run. -/
theorem runSteps_append_of_stops {state : State} {steps : List Step} (h : Stops state steps)
    (more : List Step) : runSteps state (steps ++ more) = runSteps state steps := by
  rw [← stops_iff] at h
  induction steps generalizing state with
  | nil => cases h
  | cons step steps ih =>
      cases hstep : (runStep state step).1 with
      | none => rw [List.cons_append, runSteps_cons_of_none hstep, runSteps_cons_of_none hstep]
      | some report =>
          rw [runSteps_cons_of_some hstep] at h
          rw [List.cons_append, runSteps_cons_of_some hstep, runSteps_cons_of_some hstep,
            ih (Option.map_eq_none_iff.1 h)]

end Session

namespace Guard

/-- Acquiring a guard halts the program exactly if the connection has a key file with an unfit path,
and otherwise gives a guard or an error that callers are told about. An action with a credential file
halts for the same connections, or because the action itself does. Where no guard is acquired the
environment and the files are as they were. For every unfit path there is a document that gives a
connection with it. A session stops exactly where it comes to such a path, for a guard or for steps
with a credential file, and runs nothing after that. -/
theorem acquire_halts_iff (connection : Connection) (world : World) :
    (Halts ((acquire connection).runIn world).1 ↔
      ∃ path, connection.Sets .keyPath path ∧ UnfitPath path) ∧
    (∀ error, ((acquire connection).runIn world).1 = .error error →
      ((acquire connection).runIn world).2.surroundings = world.surroundings ∧
        ∀ (α : Type) (action : Action α),
          ((withCredentialFile connection action).runIn world).2.surroundings =
            world.surroundings) ∧
    (∀ (α : Type) (action : Action α),
      Halts ((withCredentialFile connection action).runIn world).1 ↔
        (∃ path, connection.Sets .keyPath path ∧ UnfitPath path) ∨
          ∃ guard opened, (acquire connection).runIn world = (.ok guard, opened) ∧
            Halts (action.runIn opened).1) ∧
    (∀ path, UnfitPath path → ∀ identifier, ∃ read,
      Connection.ofDocument identifier (Connection.keyPathDocument path) = .ok read ∧
        Halts ((acquire read).runIn world).1) ∧
    ∀ (objects : Session.Objects) (steps : List Session.Step),
      ((Session.runSteps ⟨world, objects⟩ steps).1 = none ↔
        Session.Stops ⟨world, objects⟩ steps) ∧
      (Session.Stops ⟨world, objects⟩ steps → ∀ more,
        Session.runSteps ⟨world, objects⟩ (steps ++ more) =
          Session.runSteps ⟨world, objects⟩ steps) := by
  have hacquired := acquired_acquire connection world
  refine ⟨hacquired.halts_iff, ?_, ?_, ?_, ?_⟩
  · intro error h
    rw [h] at hacquired
    have hsame := hacquired.unchanged_of_error
    exact ⟨Prod.ext hsame.1 hsame.2, fun α action => unchanged_withCredentialFile h action⟩
  · intro α action
    rw [halts_withCredentialFile_iff, hacquired.halts_iff]
  · intro path hunfit identifier
    obtain ⟨read, hread, hsets⟩ := Connection.sets_keyPathDocument hunfit.ne_empty identifier
    exact ⟨read, hread, (acquired_acquire read world).halts_iff.2 ⟨path, hsets, hunfit⟩⟩
  · exact fun objects steps =>
      ⟨Session.stops_iff _ steps, fun hstops more => Session.runSteps_append_of_stops hstops more⟩

/-- A connection with a NUL character in the path of its key file halts the program, and stops a
session that goes on with other steps. -/
theorem halts_acquire_of_nul :
    let connection : Connection := ⟨some "a\x00.json", none, none, none⟩
    let world : World := ⟨[], .initial, 0, ⟨false, [], [], .ignored⟩, []⟩
    let steps : List Session.Step :=
      [.operation (.acquireGuard "g" connection), .operation (.releaseGuard "g")]
    Halts ((acquire connection).runIn world).1 ∧ (Session.run world steps).1 = none := by
  intro connection world steps
  have hunfit : UnfitPath "a\x00.json" := by
    refine ⟨by decide, ?_⟩
    rw [← Text.endsWith_iff]
    decide
  have hpath : connection.Sets .keyPath "a\x00.json" := ⟨rfl, by decide⟩
  exact ⟨(acquired_acquire connection world).halts_iff.2 ⟨_, hpath, hunfit⟩,
    (Session.stops_iff ⟨world, .empty⟩ steps).2 (.acquiring hpath hunfit)⟩

end Guard

end CloudCredentials
