import CloudCredentials.Proofs.Guard.Turns

/-!
# Nested guards

`Disciplined` says what a guard means for the variable, for the other variables and for the files,
from before it is acquired until long after it has been released. `disciplined_performAll` says that
guards behave in this way at every point of every program that releases the last one first.
-/

namespace CloudCredentials.Guard.Holding

variable {held : Holding} {connection : Connection} {guard : Guard}

/-! ## From the acquisition of a guard to its release -/

/-- A guard that is held has been released when no guard is held any more. -/
theorem exists_release {opened : List Guard} (hne : opened ≠ []) {turns : List Turn}
    (hheld : opened <:+ held.guards) (hlast : (held.performAll turns).guards = []) :
    ∃ between later, turns = between ++ .release :: later ∧
      (∀ steps, steps <+: between → opened <:+ (held.performAll steps).guards) ∧
      (held.performAll between).guards = opened := by
  induction turns generalizing held with
  | nil =>
      have hnil : held.guards = [] := hlast
      rw [hnil, List.suffix_nil] at hheld
      exact absurd hheld hne
  | cons turn turns ih =>
      by_cases hnext : opened <:+ (held.perform turn).guards
      · obtain ⟨between, later, rfl, hkeeps, hguards⟩ := ih hnext hlast
        refine ⟨turn :: between, later, rfl, ?_, hguards⟩
        intro steps hsteps
        rcases List.prefix_cons_iff.1 hsteps with rfl | ⟨rest, rfl, hrest⟩
        · exact hheld
        · exact hkeeps rest hrest
      · rcases held.guards_perform turn with hgrown | ⟨rfl, guard, hguards⟩
        · exact absurd (hheld.trans hgrown) hnext
        · have hopened : opened = held.guards := by
            rw [hguards] at hheld ⊢
            exact (List.suffix_cons_iff.1 hheld).resolve_right hnext
          refine ⟨[], turns, rfl, ?_, hopened.symm⟩
          intro steps hsteps
          rw [List.prefix_nil.1 hsteps]
          exact hheld

/-- Releasing a guard leaves the guards from before it was acquired. -/
theorem closed_of_opens (h : held.Opens connection guard) {between : List Turn}
    (hreturns : (held.opened connection).Returns between) :
    (held.opened connection).closed between =
      ⟨guard.releaseIn ((held.opened connection).performAll between).world, held.guards⟩ :=
  perform_release (hreturns.trans h.acquired.2)

/-- `Shelters opened path contents` says that a temporary file at the path holds the contents for the
innermost guard. -/
structure Shelters (opened : Holding) (path : String) (contents : Bytes) : Prop where
  /-- The file holds the contents as long as the guard is held and no operation changes it. -/
  kept : ∀ between, opened.Keeps between → opened.Spares path between →
    (opened.performAll between).contents? path = some contents
  /-- When no guard is held any more, the release of this guard has removed the file, and only an
  operation can have made another in its place. -/
  gone : ∀ turns, (opened.performAll turns).guards = [] →
    ∃ between later, turns = between ++ .release :: later ∧ opened.Keeps between ∧
      opened.Returns between ∧ (opened.closed between).contents? path = none ∧
      ((opened.closed between).Spares path later → (opened.performAll turns).contents? path = none)

/-- `Disciplined held` says what acquiring a guard means from there on, until the guard is released
and afterwards. -/
structure Disciplined (held : Holding) : Prop where
  /-- No guard is acquired for a key file in the legacy format, for one whose path no variable can
  hold, and where no temporary file can be made for an inline key. -/
  refuses_iff : ∀ connection, (∃ error, held.Refuses connection error) ↔
    (∃ path, connection.Sets .keyPath path ∧
      ((∃ stem, path = stem ++ ".p12") ∨ '\x00' ∈ path.toList)) ∨
    (∀ path, ¬ connection.Sets .keyPath path) ∧
      ∃ text failure, connection.Sets .keyData text ∧
        held.world.files.makeTemporary (temporaryDirectory held.world.environment)
          (Bytes.ofText text) = .error failure
  /-- Where no guard is acquired, the environment, the files and the guards stay. -/
  refused : ∀ connection error, held.Refuses connection error →
    (held.opened connection).world.environment = held.world.environment ∧
      (held.opened connection).world.files = held.world.files ∧
      (held.opened connection).guards = held.guards
  /-- A guard exports something if the connection has a key. -/
  exports_iff : ∀ connection guard, held.Opens connection guard →
    (guard.exported.isSome = true ↔ connection.HasKey)
  /-- The variable names what a guard exports. -/
  exported : ∀ connection guard path, held.Opens connection guard →
    guard.exported = some path → (held.opened connection).value = some (Bytes.ofText path)
  /-- Releasing a guard that exported something gives the variable the value back that it had
  before the guard, whatever happened in between. -/
  restored : ∀ connection guard path between, held.Opens connection guard →
    guard.exported = some path → (held.opened connection).Returns between →
      ((held.opened connection).closed between).value = held.value ∧
        ((held.opened connection).closed between).guards = held.guards
  /-- A guard of a connection without a key changes nothing, neither when it is acquired nor when
  it is released. -/
  unkeyed : ∀ connection, ¬ connection.HasKey →
    (held.opened connection).world = held.world ∧
      ∀ between, (held.opened connection).Returns between →
        ((held.opened connection).closed between).world =
          ((held.opened connection).performAll between).world
  /-- Acquiring and releasing change no other variable. -/
  others : ∀ name, name ≠ keyFileVariable →
    (∀ connection, (held.opened connection).world.environment.get? name =
      held.world.environment.get? name) ∧
    (held.perform .release).world.environment.get? name = held.world.environment.get? name
  /-- The path of a key file is exported as it is, and acquiring leaves the files alone. -/
  keyFile : ∀ connection guard path, held.Opens connection guard →
    connection.Sets .keyPath path →
      guard.exported = some path ∧ (held.opened connection).world.files = held.world.files
  /-- An inline key is exported in a temporary file. -/
  keyData : ∀ connection guard text, held.Opens connection guard →
    (∀ path, ¬ connection.Sets .keyPath path) → connection.Sets .keyData text →
      ∃ path, guard.exported = some path ∧
        (held.opened connection).Shelters path (Bytes.ofText text)

/-- The temporary file of a guard shelters its contents until the guard is released. -/
theorem shelters_of_made {previous : Option Bytes} {path : String} {contents : Bytes}
    {opened : Holding} {below : List Guard} (hnumbered : opened.IsNumbered)
    (hguards : opened.guards = ⟨previous, some path, true⟩ :: below)
    (hcontents : opened.contents? path = some contents) : opened.Shelters path contents := by
  constructor
  case kept =>
    intro between hkeeps hspares
    rw [contents?_performAll hnumbered hguards hkeeps hspares, hcontents]
  case gone =>
    intro turns hlast
    have hne : opened.guards ≠ [] := by
      rw [hguards]
      exact List.cons_ne_nil _ _
    obtain ⟨between, later, rfl, hkeeps, hreturns⟩ :=
      exists_release hne (List.suffix_refl _) hlast
    have hclosed := perform_release (hreturns.trans hguards)
    have hnone : (opened.closed between).contents? path = none := by
      unfold closed
      rw [hclosed]
      exact FileSystem.contents?_removeFile_self _ path
    refine ⟨between, later, rfl, hkeeps, hreturns, hnone, fun hspares => ?_⟩
    have hheld : Numbered opened.count opened.guards := hnumbered
    rw [hguards] at hheld
    obtain ⟨number, hpath, hlt⟩ := hheld.exists_lt (List.suffix_refl _)
    have hcount : number < (opened.closed between).count :=
      Nat.lt_of_lt_of_le hlt (Nat.le_trans (opened.count_le_performAll between)
        (count_le_perform _ .release))
    rw [performAll_append]
    show ((opened.closed between).performAll later).contents? path = none
    exact contents?_performAll_eq_none hpath hcount hnone hspares

/-- Guards are disciplined wherever their temporary files are numbered. -/
theorem disciplined_of_isNumbered (h : held.IsNumbered) : held.Disciplined := by
  constructor
  case refuses_iff =>
    intro connection
    exact (acquired_acquire connection held.world).error_iff
  case refused =>
    intro connection error hrefuses
    obtain ⟨hacquired, hguards⟩ := hrefuses.acquired
    obtain ⟨henvironment, hfiles⟩ := hacquired.unchanged_of_error
    exact ⟨henvironment, hfiles, hguards⟩
  case exports_iff => exact fun connection guard hopens => hopens.acquired.1.exports_iff
  case exported =>
    exact fun connection guard path hopens hexported => hopens.acquired.1.get?_of_exported hexported
  case restored =>
    intro connection guard path between hopens hexported hreturns
    rw [closed_of_opens hopens hreturns]
    refine ⟨?_, rfl⟩
    exact (guard.get?_releaseIn_self _ path hexported).trans hopens.acquired.1.previous_eq
  case unkeyed =>
    intro connection hkey
    obtain ⟨previous, hopens, hworld⟩ :=
      (acquired_acquire connection held.world).of_not_hasKey hkey
    obtain ⟨hacquired, _⟩ := Opens.acquired hopens
    obtain ⟨_, _, hsame⟩ := hacquired.of_not_hasKey hkey
    refine ⟨hsame, fun between hreturns => ?_⟩
    rw [closed_of_opens hopens hreturns]
    rfl
  case others =>
    intro name hname
    constructor
    · intro connection
      obtain ⟨outcome, hacquired⟩ := held.acquired_perform connection
      exact hacquired.get?_of_ne hname
    · cases hguards : held.guards with
      | nil => rw [perform_release_of_nil hguards]
      | cons guard guards =>
          rw [perform_release hguards]
          exact guard.get?_releaseIn_of_ne held.world name hname
  case keyFile =>
    exact fun connection guard path hopens hpath => hopens.acquired.1.of_keyPath hpath
  case keyData =>
    intro connection guard text hopens hpath htext
    obtain ⟨hacquired, hguards⟩ := hopens.acquired
    obtain ⟨path, rfl, hmade⟩ := hacquired.of_keyData hpath htext
    exact ⟨path, rfl, shelters_of_made (h.perform _) hguards hmade.contents?_self⟩

/-- Whatever a program does with guards, they are disciplined at every point of it. -/
theorem disciplined_performAll (world : World) (turns : List Turn) :
    ((⟨world, []⟩ : Holding).performAll turns).Disciplined := by
  have hnumbered : (⟨world, []⟩ : Holding).IsNumbered := .nil _
  exact disciplined_of_isNumbered (hnumbered.performAll turns)

end CloudCredentials.Guard.Holding
