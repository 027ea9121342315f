import CloudCredentials.CredentialFile
import CloudCredentials.Proofs.Credentials.Decision
import CloudCredentials.Proofs.World.Files

/-!
# How guards are acquired and released

`Acquired` says how acquiring a guard can end, one rule for each case, and `acquired_acquire` that
it ends so. `runIn_withCredentialFile` says that an action with a credential file is what comes
between acquiring a guard and releasing it, whichever way the action ends.
-/

namespace CloudCredentials

/-- A connection has one text for a setting at most. -/
theorem Connection.Sets.unique {connection : Connection} {setting : Setting} {text other : String}
    (h : connection.Sets setting text) (hother : connection.Sets setting other) : text = other :=
  Option.some.inj (h.1.symm.trans hother.1)

namespace Guard

/-- The event that tells that a path is exported. -/
def exporting (path : String) : Event :=
  ⟨.debug, .credentialFile, "exporting " ++ keyFileVariable, [.plain "path" path]⟩

/-- The world with a path in the variable, and with the event that tells so. -/
def afterExport (path : String) (world : World) : World :=
  { world with
    environment := world.environment.set keyFileVariable (Bytes.ofText path)
    log := world.log ++ [exporting path] }

/-- A path is exported, unless no variable can hold it. -/
theorem runIn_exportPath (path : String) (world : World) :
    (exportPath path).runIn world =
      if '\x00' ∈ path.toList then
        (.error (.environmentRejected keyFileVariable path),
          { world with log := world.log ++ [exporting path] })
      else (.ok (), afterExport path world) := by
  rw [exportPath, Action.runIn_bind_of_ok (Action.runIn_report _ _ _ _ world)]
  by_cases h : '\x00' ∈ path.toList
  · rw [if_pos h, if_pos ((FileSystem.any_nul_iff path).2 h)]
    rfl
  · rw [if_neg h, if_neg (mt (FileSystem.any_nul_iff path).1 h)]
    rfl

/-- `Acquired connection world outcome after` says how acquiring a guard for a connection ends in a
world, and which world it leaves. -/
inductive Acquired (connection : Connection) (world : World) : Except Error Guard → World → Prop where
  /-- A connection without a key exports nothing. -/
  | nothing (hpath : ∀ path, ¬ connection.Sets .keyPath path)
      (htext : ∀ text, ¬ connection.Sets .keyData text) :
      Acquired connection world
        (.ok ⟨world.environment.get? keyFileVariable, none, false⟩) world
  /-- The path of a key file is exported as it is. -/
  | keyFile (path : String) (hpath : connection.Sets .keyPath path)
      (hlegacy : ¬ ∃ stem, path = stem ++ ".p12") (hnul : '\x00' ∉ path.toList) :
      Acquired connection world
        (.ok ⟨world.environment.get? keyFileVariable, some path, false⟩) (afterExport path world)
  /-- A key file in the legacy format is refused. -/
  | legacy (path : String) (hpath : connection.Sets .keyPath path)
      (hlegacy : ∃ stem, path = stem ++ ".p12") :
      Acquired connection world (.error .unsupportedKeyFormat) world
  /-- A path that no variable can hold is not exported. -/
  | rejected (path : String) (hpath : connection.Sets .keyPath path)
      (hlegacy : ¬ ∃ stem, path = stem ++ ".p12") (hnul : '\x00' ∈ path.toList) :
      Acquired connection world (.error (.environmentRejected keyFileVariable path))
        { world with log := world.log ++ [exporting path] }
  /-- An inline key is exported in a temporary file. -/
  | keyData (text path : String) (files : FileSystem)
      (hpath : ∀ path, ¬ connection.Sets .keyPath path) (htext : connection.Sets .keyData text)
      (hmade : world.files.makeTemporary (temporaryDirectory world.environment)
        (Bytes.ofText text) = .ok (path, files)) :
      Acquired connection world
        (.ok ⟨world.environment.get? keyFileVariable, some path, true⟩)
        (afterExport path { world with files })
  /-- Without a temporary file an inline key is not exported. -/
  | unmade (text path : String) (fault : FileFault)
      (hpath : ∀ path, ¬ connection.Sets .keyPath path) (htext : connection.Sets .keyData text)
      (hmade : world.files.makeTemporary (temporaryDirectory world.environment)
        (Bytes.ofText text) = .error (fault, path)) :
      Acquired connection world (.error (.credentialFile fault (some path))) world

/-- Acquiring a guard ends as `Acquired` says. -/
theorem acquired_acquire (connection : Connection) (world : World) :
    Acquired connection world ((acquire connection).runIn world).1
      ((acquire connection).runIn world).2 := by
  rw [acquire, Action.runIn_bind_of_ok (Action.runIn_ask _ world)]
  rcases connection.sets_or_unset .keyPath with ⟨path, hpath⟩ | hpath
  · have hget : connection.keyPath = some path := (connection.get_eq_some_iff .keyPath path).2 hpath
    simp only [hget]
    by_cases hlegacy : ∃ stem, path = stem ++ ".p12"
    · rw [if_pos ((Text.endsWith_iff path ".p12").2 hlegacy)]
      exact .legacy path hpath hlegacy
    · rw [if_neg (mt (Text.endsWith_iff path ".p12").1 hlegacy)]
      simp only [Action.runIn_bind, runIn_exportPath]
      by_cases hnul : '\x00' ∈ path.toList
      · rw [if_pos hnul]
        exact .rejected path hpath hlegacy hnul
      · rw [if_neg hnul]
        exact .keyFile path hpath hlegacy hnul
  · have hget : connection.keyPath = none := (connection.get_eq_none_iff .keyPath).2 hpath
    simp only [hget]
    rcases connection.sets_or_unset .keyData with ⟨text, htext⟩ | htext
    · have hdata : connection.keyData = some text :=
        (connection.get_eq_some_iff .keyData text).2 htext
      simp only [hdata]
      cases hmade : world.files.makeTemporary (temporaryDirectory world.environment)
          (Bytes.ofText text) with
      | error failure =>
          obtain ⟨fault, path⟩ := failure
          have hrun : (makeTemporary (Bytes.ofText text)).runIn world =
              (.error (.credentialFile fault (some path)), world) := by
            rw [makeTemporary, Action.runIn_bind_of_ok (Action.runIn_get world), hmade]
            rfl
          rw [Action.runIn_bind_of_error hrun]
          exact .unmade text path fault hpath htext hmade
      | ok temporary =>
          obtain ⟨path, files⟩ := temporary
          have hrun : (makeTemporary (Bytes.ofText text)).runIn world =
              (.ok path, { world with files }) := by
            rw [makeTemporary, Action.runIn_bind_of_ok (Action.runIn_get world), hmade]
            rfl
          have hnul := (FileSystem.madeTemporary_of_makeTemporary hmade).nul_not_mem
          rw [Action.runIn_bind_of_ok hrun, Action.runIn_bind, runIn_exportPath, if_neg hnul]
          exact .keyData text path files hpath htext hmade
    · have hdata : connection.keyData = none := (connection.get_eq_none_iff .keyData).2 htext
      simp only [hdata]
      exact .nothing hpath htext

variable {connection : Connection} {world after : World} {outcome : Except Error Guard}

/-- Acquiring a guard leaves the files alone, or makes the one temporary file of the guard. -/
theorem Acquired.files_eq_or (h : Acquired connection world outcome after) :
    (after.files = world.files ∧ ∀ guard, outcome = .ok guard → guard.isTemporary = false) ∨
      ∃ text path, outcome = .ok ⟨world.environment.get? keyFileVariable, some path, true⟩ ∧
        connection.Sets .keyData text ∧
        world.files.MadeTemporary (Bytes.ofText text) path after.files := by
  cases h with
  | nothing => exact .inl ⟨rfl, by simp⟩
  | keyFile => exact .inl ⟨rfl, by simp⟩
  | legacy => exact .inl ⟨rfl, by simp⟩
  | rejected => exact .inl ⟨rfl, by simp⟩
  | keyData text path files hpath htext hmade =>
      exact .inr ⟨text, path, rfl, htext, FileSystem.madeTemporary_of_makeTemporary hmade⟩
  | unmade => exact .inl ⟨rfl, by simp⟩

/-- A guard that is acquired keeps the value that the variable had before. -/
theorem Acquired.previous_eq {guard : Guard} (h : Acquired connection world (.ok guard) after) :
    guard.previous = world.environment.get? keyFileVariable := by
  cases h with
  | nothing => rfl
  | keyFile => rfl
  | keyData => rfl

/-- A guard that is acquired exports something if the connection has a key. -/
theorem Acquired.exports_iff {guard : Guard} (h : Acquired connection world (.ok guard) after) :
    guard.exported.isSome = true ↔ connection.HasKey := by
  cases h with
  | nothing hpath htext =>
      refine iff_of_false Bool.false_ne_true ?_
      rintro ⟨text, hkey | hkey⟩
      · exact hpath text hkey
      · exact htext text hkey
  | keyFile path hpath => exact iff_of_true rfl ⟨path, .inl hpath⟩
  | keyData text path files _ htext => exact iff_of_true rfl ⟨text, .inr htext⟩

/-- What a guard exports when it is acquired, the variable names. -/
theorem Acquired.get?_of_exported {guard : Guard} {path : String}
    (h : Acquired connection world (.ok guard) after) (hexported : guard.exported = some path) :
    after.environment.get? keyFileVariable = some (Bytes.ofText path) := by
  have hset : ∀ environment : Environment,
      (environment.set keyFileVariable (Bytes.ofText path)).get? keyFileVariable =
        some (Bytes.ofText path) := fun environment =>
    Environment.get?_put_self environment keyFileVariable (some (Bytes.ofText path))
  cases h with
  | nothing => cases hexported
  | keyFile =>
      cases hexported
      exact hset _
  | keyData =>
      cases hexported
      exact hset _

/-- Without a key there is a guard, and nothing changes. -/
theorem Acquired.of_not_hasKey (h : Acquired connection world outcome after)
    (hkey : ¬ connection.HasKey) :
    ∃ previous, outcome = .ok ⟨previous, none, false⟩ ∧ after = world := by
  cases h with
  | nothing => exact ⟨_, rfl, rfl⟩
  | keyFile path hpath => exact absurd ⟨path, .inl hpath⟩ hkey
  | legacy path hpath => exact absurd ⟨path, .inl hpath⟩ hkey
  | rejected path hpath => exact absurd ⟨path, .inl hpath⟩ hkey
  | keyData text path files _ htext => exact absurd ⟨text, .inr htext⟩ hkey
  | unmade text path fault _ htext => exact absurd ⟨text, .inr htext⟩ hkey

/-- The guard of a connection with a key file exports its path, and there is no temporary file. -/
theorem Acquired.of_keyPath {guard : Guard} {path : String}
    (h : Acquired connection world (.ok guard) after) (hpath : connection.Sets .keyPath path) :
    guard.exported = some path ∧ after.files = world.files := by
  cases h with
  | nothing hnone => exact absurd hpath (hnone path)
  | keyFile other hother =>
      rw [hpath.unique hother]
      exact ⟨rfl, rfl⟩
  | keyData text other files hnone => exact absurd hpath (hnone path)

/-- The guard of a connection with an inline key alone exports a temporary file with the key. -/
theorem Acquired.of_keyData {guard : Guard} {text : String}
    (h : Acquired connection world (.ok guard) after)
    (hpath : ∀ path, ¬ connection.Sets .keyPath path) (htext : connection.Sets .keyData text) :
    ∃ path, guard = ⟨world.environment.get? keyFileVariable, some path, true⟩ ∧
      world.files.MadeTemporary (Bytes.ofText text) path after.files := by
  cases h with
  | nothing _ hnone => exact absurd htext (hnone text)
  | keyFile path hfile => exact absurd hfile (hpath path)
  | keyData other path files _ hother hmade =>
      rw [htext.unique hother]
      exact ⟨path, rfl, FileSystem.madeTemporary_of_makeTemporary hmade⟩

/-- No guard is acquired for a key file in the legacy format, for one whose path no variable can
hold, and where no temporary file can be made for an inline key. -/
theorem Acquired.error_iff (h : Acquired connection world outcome after) :
    (∃ error, outcome = .error error) ↔
      (∃ path, connection.Sets .keyPath path ∧
        ((∃ stem, path = stem ++ ".p12") ∨ '\x00' ∈ path.toList)) ∨
      (∀ path, ¬ connection.Sets .keyPath path) ∧
        ∃ text failure, connection.Sets .keyData text ∧
          world.files.makeTemporary (temporaryDirectory world.environment) (Bytes.ofText text) =
            .error failure := by
  cases h with
  | nothing hpath htext =>
      refine iff_of_false (by simp) ?_
      rintro (⟨path, hfile, _⟩ | ⟨_, text, _, hdata, _⟩)
      · exact hpath path hfile
      · exact htext text hdata
  | keyFile path hpath hlegacy hnul =>
      refine iff_of_false (by simp) ?_
      rintro (⟨other, hother, hbad⟩ | ⟨hnone, _⟩)
      · rw [hother.unique hpath] at hbad
        exact hbad.elim hlegacy hnul
      · exact hnone path hpath
  | legacy path hpath hlegacy => exact iff_of_true ⟨_, rfl⟩ (.inl ⟨path, hpath, .inl hlegacy⟩)
  | rejected path hpath _ hnul => exact iff_of_true ⟨_, rfl⟩ (.inl ⟨path, hpath, .inr hnul⟩)
  | keyData text path files hpath htext hmade =>
      refine iff_of_false (by simp) ?_
      rintro (⟨other, hother, _⟩ | ⟨_, other, failure, hother, hfailed⟩)
      · exact hpath other hother
      · rw [hother.unique htext, hmade] at hfailed
        cases hfailed
  | unmade text path fault hpath htext hmade =>
      exact iff_of_true ⟨_, rfl⟩ (.inr ⟨hpath, text, _, htext, hmade⟩)

/-- Where a guard is not acquired, the environment and the files stay. -/
theorem Acquired.unchanged_of_error {error : Error}
    (h : Acquired connection world (.error error) after) :
    after.environment = world.environment ∧ after.files = world.files := by
  cases h with
  | legacy => exact ⟨rfl, rfl⟩
  | rejected => exact ⟨rfl, rfl⟩
  | unmade => exact ⟨rfl, rfl⟩

/-- Acquiring a guard leaves all variables alone but the one for key files. -/
theorem Acquired.get?_of_ne (h : Acquired connection world outcome after) {name : String}
    (hname : name ≠ keyFileVariable) :
    after.environment.get? name = world.environment.get? name := by
  have hset : ∀ path : String,
      (world.environment.set keyFileVariable (Bytes.ofText path)).get? name =
        world.environment.get? name := fun path =>
    Environment.get?_put_of_ne world.environment keyFileVariable name (some _) hname
  cases h with
  | nothing => rfl
  | keyFile path => exact hset path
  | legacy => rfl
  | rejected => rfl
  | keyData text path => exact hset path
  | unmade => rfl

/-- An action with a credential file comes between acquiring a guard and releasing it, and ends as
it would by itself. Where no guard can be acquired the action is not run. -/
theorem runIn_withCredentialFile {α : Type} (connection : Connection) (action : Action α)
    (world : World) :
    (withCredentialFile connection action).runIn world =
      match (acquire connection).runIn world with
      | (.error error, after) => (.error error, after)
      | (.ok guard, opened) =>
          ((action.runIn opened).1, guard.releaseIn (action.runIn opened).2) := by
  rw [withCredentialFile, Action.runIn_bind]
  rcases (acquire connection).runIn world with ⟨outcome, opened⟩
  cases outcome with
  | error error => rfl
  | ok guard => exact Action.runIn_finally action guard.releaseIn opened

end Guard

end CloudCredentials
