import CloudCredentials.Proofs.Guard.Acquisition
import Mathlib.Data.List.Induction

/-!
# Programs that hold guards

A program acquires guards and releases them, the last one first, and does whatever else it wants in
between. Each `Turn` leads from one `Holding` to the next. The temporary files of the guards that are
held are `Numbered`, so that `contents?_performAll` and `contents?_performAll_eq_none` can say what
the path of such a file shows while its guard is held and after it has been released.
-/

namespace CloudCredentials.Guard

/-- What a program does next: acquire a guard, do something of its own that may fail, or release
the innermost guard. -/
inductive Turn where
  | acquire (connection : Connection)
  | operation (action : Action Unit)
  | release

/-- The world, and the guards that are held, innermost first. -/
structure Holding where
  world : World
  guards : List Guard

namespace Holding

/-- The value of the variable that names a key file. -/
def value (held : Holding) : Option Bytes :=
  held.world.environment.get? keyFileVariable

/-- The contents of the file at a path, if there is a file. -/
def contents? (held : Holding) (path : String) : Option Bytes :=
  held.world.files.contents? path

/-- What follows an operation. It may have changed everything, but numbers of temporary files are
not used again. -/
def operated (held : Holding) (after : World) : Holding :=
  let count := max held.world.files.temporaryCount after.files.temporaryCount
  ⟨{ after with files := { after.files with temporaryCount := count } }, held.guards⟩

/-- What follows a turn. A guard that cannot be acquired is not held, and where no guard is held
none is released. -/
def perform (held : Holding) : Turn → Holding
  | .acquire connection =>
      match (acquire connection).runIn held.world with
      | (.ok guard, after) => ⟨after, guard :: held.guards⟩
      | (.error _, after) => ⟨after, held.guards⟩
  | .operation action => held.operated (action.runIn held.world).2
  | .release =>
      match held.guards with
      | [] => held
      | guard :: guards => ⟨(guard.release.runIn held.world).2, guards⟩

/-- What follows some turns. -/
def performAll (held : Holding) (turns : List Turn) : Holding :=
  turns.foldl perform held

/-- What follows acquiring a guard for a connection. -/
def opened (held : Holding) (connection : Connection) : Holding :=
  held.perform (.acquire connection)

/-- What follows some turns and the release of a guard. -/
def closed (held : Holding) (turns : List Turn) : Holding :=
  (held.performAll turns).perform .release

/-- Acquiring gives this guard. -/
def Opens (held : Holding) (connection : Connection) (guard : Guard) : Prop :=
  ((acquire connection).runIn held.world).1 = .ok guard

/-- Acquiring fails with this error. -/
def Refuses (held : Holding) (connection : Connection) (error : Error) : Prop :=
  ((acquire connection).runIn held.world).1 = .error error

/-- Throughout the turns, the guards that are held now stay held. -/
def Keeps (held : Holding) (turns : List Turn) : Prop :=
  ∀ steps, steps <+: turns → held.guards <:+ (held.performAll steps).guards

/-- After the turns, the guards are those that are held now. -/
def Returns (held : Holding) (turns : List Turn) : Prop :=
  (held.performAll turns).guards = held.guards

/-- No operation among the turns changes what a path shows. -/
def Spares (held : Holding) (path : String) (turns : List Turn) : Prop :=
  ∀ steps action, steps ++ [.operation action] <+: turns →
    (held.performAll (steps ++ [.operation action])).contents? path =
      (held.performAll steps).contents? path

variable {held : Holding} {connection : Connection} {guard : Guard}

/-! ## Turns -/

/-- Turns are made one after the other. -/
theorem performAll_append (held : Holding) (first second : List Turn) :
    held.performAll (first ++ second) = (held.performAll first).performAll second :=
  List.foldl_append

/-- A last turn follows all those before. -/
theorem performAll_concat (held : Holding) (turns : List Turn) (turn : Turn) :
    held.performAll (turns ++ [turn]) = (held.performAll turns).perform turn :=
  performAll_append held turns [turn]

/-- A guard that is acquired comes on top of the others, in a world that acquiring has left. -/
theorem Opens.acquired (h : held.Opens connection guard) :
    Acquired connection held.world (.ok guard) (held.perform (.acquire connection)).world ∧
      (held.perform (.acquire connection)).guards = guard :: held.guards := by
  have hacquired := acquired_acquire connection held.world
  unfold Opens at h
  rw [perform]
  rcases hrun : (acquire connection).runIn held.world with ⟨outcome, after⟩
  rw [hrun] at h hacquired
  cases h
  exact ⟨hacquired, rfl⟩

/-- Where no guard can be acquired, the guards stay, in a world that acquiring has left. -/
theorem Refuses.acquired {error : Error} (h : held.Refuses connection error) :
    Acquired connection held.world (.error error) (held.perform (.acquire connection)).world ∧
      (held.perform (.acquire connection)).guards = held.guards := by
  have hacquired := acquired_acquire connection held.world
  unfold Refuses at h
  rw [perform]
  rcases hrun : (acquire connection).runIn held.world with ⟨outcome, after⟩
  rw [hrun] at h hacquired
  cases h
  exact ⟨hacquired, rfl⟩

/-- A guard can be acquired, or there is an error. -/
theorem opens_or_refuses (held : Holding) (connection : Connection) :
    (∃ guard, held.Opens connection guard) ∨ ∃ error, held.Refuses connection error := by
  unfold Opens Refuses
  cases ((acquire connection).runIn held.world).1 with
  | ok guard => exact .inl ⟨guard, rfl⟩
  | error error => exact .inr ⟨error, rfl⟩

/-- Whether a guard is acquired or not, the world is one that acquiring has left. -/
theorem acquired_perform (held : Holding) (connection : Connection) :
    ∃ outcome,
      Acquired connection held.world outcome (held.perform (.acquire connection)).world := by
  rcases held.opens_or_refuses connection with ⟨guard, h⟩ | ⟨error, h⟩
  · exact ⟨_, h.acquired.1⟩
  · exact ⟨_, h.acquired.1⟩

/-- Releasing leaves the guards below, in the world that the innermost guard leaves. -/
theorem perform_release {guards : List Guard} (h : held.guards = guard :: guards) :
    held.perform .release = ⟨guard.releaseIn held.world, guards⟩ := by
  rw [perform, h]
  rfl

/-- Where no guard is held, releasing does nothing. -/
theorem perform_release_of_nil (h : held.guards = []) : held.perform .release = held := by
  rw [perform, h]

/-- A turn leaves the guards as they are, puts one on top or takes the innermost away. -/
theorem guards_perform (held : Holding) (turn : Turn) :
    held.guards <:+ (held.perform turn).guards ∨
      turn = .release ∧ ∃ guard, held.guards = guard :: (held.perform turn).guards := by
  cases turn with
  | acquire connection =>
      rcases held.opens_or_refuses connection with ⟨guard, h⟩ | ⟨error, h⟩
      · rw [h.acquired.2]
        exact .inl (List.suffix_cons guard held.guards)
      · rw [h.acquired.2]
        exact .inl (List.suffix_refl held.guards)
  | operation action => exact .inl (List.suffix_refl held.guards)
  | release =>
      cases hguards : held.guards with
      | nil =>
          rw [perform_release_of_nil hguards, hguards]
          exact .inl (List.suffix_refl [])
      | cons guard guards =>
          rw [perform_release hguards]
          exact .inr ⟨rfl, guard, rfl⟩

/-! ## The numbers of temporary files -/

/-- `Numbered bound guards` says that the temporary files of the guards have numbers below the bound,
each one below those of the guards further in. -/
inductive Numbered : Nat → List Guard → Prop where
  | nil (bound : Nat) : Numbered bound []
  | plain {bound : Nat} {guards : List Guard} (guard : Guard) (hplain : guard.isTemporary = false)
      (hguards : Numbered bound guards) : Numbered bound (guard :: guards)
  | temporary {bound : Nat} {guards : List Guard} (previous : Option Bytes) (path : String)
      (number : Nat) (hpath : FileSystem.IsTemporaryPath path number) (hlt : number < bound)
      (hguards : Numbered number guards) :
      Numbered bound (⟨previous, some path, true⟩ :: guards)

/-- A greater bound bounds as well. -/
theorem Numbered.mono {bound greater : Nat} {guards : List Guard} (h : Numbered bound guards)
    (hle : bound ≤ greater) : Numbered greater guards := by
  induction h with
  | nil => exact .nil greater
  | plain guard hplain _ ih => exact .plain guard hplain (ih hle)
  | temporary previous path number hpath hlt hguards =>
      exact .temporary previous path number hpath (Nat.lt_of_lt_of_le hlt hle) hguards

/-- The number that the next temporary file has at least. -/
def count (held : Holding) : Nat :=
  held.world.files.temporaryCount

/-- The temporary files of all guards that are held have different numbers, which are not used
again. -/
def IsNumbered (held : Holding) : Prop :=
  Numbered held.count held.guards

/-- Numbers of temporary files are not used again. -/
theorem count_le_perform (held : Holding) (turn : Turn) :
    held.count ≤ (held.perform turn).count := by
  unfold count
  cases turn with
  | acquire connection =>
      obtain ⟨outcome, hacquired⟩ := held.acquired_perform connection
      rcases hacquired.files_eq_or with ⟨hfiles, _⟩ | ⟨_, path, _, _, hmade⟩
      · exact Nat.le_of_eq (congrArg FileSystem.temporaryCount hfiles.symm)
      · obtain ⟨number, hle, _, hcount⟩ := hmade.exists_number
        omega
  | operation action => exact Nat.le_max_left _ _
  | release =>
      cases hguards : held.guards with
      | nil => exact Nat.le_of_eq (by rw [perform_release_of_nil hguards])
      | cons guard guards =>
          rw [perform_release hguards]
          unfold releaseIn
          split
          · exact Nat.le_refl _
          · split
            · exact Nat.le_of_eq (FileSystem.temporaryCount_removeFile _ _).symm
            · exact Nat.le_refl _

/-- A turn keeps the temporary files numbered. -/
theorem IsNumbered.perform (h : held.IsNumbered) (turn : Turn) :
    (held.perform turn).IsNumbered := by
  have hcount := held.count_le_perform turn
  unfold IsNumbered at h ⊢
  cases turn with
  | acquire connection =>
      rcases held.opens_or_refuses connection with ⟨guard, hopens⟩ | ⟨error, hrefuses⟩
      · obtain ⟨hacquired, hguards⟩ := hopens.acquired
        rw [hguards]
        rcases hacquired.files_eq_or with ⟨_, hplain⟩ | ⟨_, path, heq, _, hmade⟩
        · exact .plain guard (hplain guard rfl) (h.mono hcount)
        · obtain ⟨number, hle, hpath, hnumber⟩ := hmade.exists_number
          cases heq
          exact .temporary _ path number hpath (by unfold count; omega) (h.mono hle)
      · rw [hrefuses.acquired.2]
        exact h.mono hcount
  | operation action => exact h.mono hcount
  | release =>
      cases hguards : held.guards with
      | nil => rwa [perform_release_of_nil hguards]
      | cons guard guards =>
          rw [perform_release hguards] at hcount ⊢
          rw [hguards] at h
          cases h with
          | plain _ _ hbelow => exact hbelow.mono hcount
          | temporary _ _ _ _ hlt hbelow => exact hbelow.mono (by omega)

/-- Turns keep the temporary files numbered. -/
theorem IsNumbered.performAll (h : held.IsNumbered) (turns : List Turn) :
    (held.performAll turns).IsNumbered := by
  induction turns generalizing held with
  | nil => exact h
  | cons turn turns ih => exact ih (h.perform turn)

/-- Numbers of temporary files are not used again in any turns. -/
theorem count_le_performAll (held : Holding) (turns : List Turn) :
    held.count ≤ (held.performAll turns).count := by
  induction turns generalizing held with
  | nil => exact Nat.le_refl _
  | cons turn turns ih => exact Nat.le_trans (held.count_le_perform turn) (ih _)

/-! ## What the path of a temporary file shows -/

/-- Acquiring a guard changes nothing that the path of an earlier temporary file shows. -/
theorem contents?_acquire {path : String} {number : Nat}
    (hpath : FileSystem.IsTemporaryPath path number) (hlt : number < held.count)
    (connection : Connection) :
    (held.perform (.acquire connection)).contents? path = held.contents? path := by
  obtain ⟨outcome, hacquired⟩ := held.acquired_perform connection
  rcases hacquired.files_eq_or with ⟨hfiles, _⟩ | ⟨_, _, _, _, hmade⟩
  · exact congrArg (FileSystem.contents? · path) hfiles
  · exact hmade.contents?_of_lt hpath hlt

/-- The temporary file of a guard that is held has a number below the bound. -/
theorem Numbered.exists_lt {bound : Nat} {guards below : List Guard} {previous : Option Bytes}
    {path : String} (h : Numbered bound guards)
    (hbelow : ⟨previous, some path, true⟩ :: below <:+ guards) :
    ∃ number, FileSystem.IsTemporaryPath path number ∧ number < bound := by
  induction h with
  | nil => simp at hbelow
  | plain guard hplain _ ih =>
      rcases List.suffix_cons_iff.1 hbelow with heq | hbelow
      · cases heq
        cases hplain
      · exact ih hbelow
  | temporary _ other number hpath hlt _ ih =>
      rcases List.suffix_cons_iff.1 hbelow with heq | hbelow
      · cases heq
        exact ⟨number, hpath, hlt⟩
      · obtain ⟨lower, hlower, hless⟩ := ih hbelow
        exact ⟨lower, hlower, Nat.lt_trans hless hlt⟩

/-- As long as its guard is held, what the path of a temporary file shows is changed by operations
alone. -/
theorem contents?_perform {previous : Option Bytes} {path : String} {below : List Guard}
    {turn : Turn} (hnumbered : held.IsNumbered)
    (hheld : ⟨previous, some path, true⟩ :: below <:+ held.guards)
    (hkept : ⟨previous, some path, true⟩ :: below <:+ (held.perform turn).guards)
    (hspares : ∀ action, turn = .operation action →
      (held.perform turn).contents? path = held.contents? path) :
    (held.perform turn).contents? path = held.contents? path := by
  cases turn with
  | acquire connection =>
      obtain ⟨number, hpath, hlt⟩ := hnumbered.exists_lt hheld
      exact contents?_acquire hpath hlt connection
  | operation action => exact hspares action rfl
  | release =>
      cases hguards : held.guards with
      | nil => rw [perform_release_of_nil hguards]
      | cons guard guards =>
          rw [perform_release hguards] at hkept ⊢
          unfold IsNumbered at hnumbered
          rw [hguards] at hnumbered
          cases hnumbered with
          | plain _ hplain _ =>
              show (guard.releaseIn held.world).files.contents? path = _
              unfold releaseIn
              rw [hplain]
              split <;> rfl
          | temporary _ other number hother _ hbelow =>
              -- The guard that is released lies further in, so that its file has another number.
              obtain ⟨lower, hpath, hlt⟩ := hbelow.exists_lt hkept
              exact FileSystem.contents?_removeFile_of_ne _
                (FileSystem.placeOf_ne_of_number_ne hpath hother (Nat.ne_of_lt hlt) _)

/-- What is kept through turns is kept through the first of them. -/
theorem Keeps.of_append {turns more : List Turn} (h : held.Keeps (turns ++ more)) :
    held.Keeps turns := fun steps hsteps =>
  h steps (hsteps.trans (List.prefix_append turns more))

/-- What is spared by turns is spared by the first of them. -/
theorem Spares.of_append {path : String} {turns more : List Turn}
    (h : held.Spares path (turns ++ more)) : held.Spares path turns := fun steps action hsteps =>
  h steps action (hsteps.trans (List.prefix_append turns more))

/-- What is spared by turns is spared by the last of them. -/
theorem Spares.last {path : String} {turns : List Turn} {turn : Turn}
    (h : held.Spares path (turns ++ [turn])) (action : Action Unit)
    (hturn : turn = .operation action) :
    ((held.performAll turns).perform turn).contents? path =
      (held.performAll turns).contents? path := by
  subst hturn
  rw [← performAll_concat]
  exact h turns action (List.prefix_refl _)

/-- The path of a temporary file shows the same as long as its guard is held and no operation
changes what it shows. -/
theorem contents?_performAll {previous : Option Bytes} {path : String} {below : List Guard}
    {turns : List Turn} (hnumbered : held.IsNumbered)
    (hguards : held.guards = ⟨previous, some path, true⟩ :: below)
    (hkeeps : held.Keeps turns) (hspares : held.Spares path turns) :
    (held.performAll turns).contents? path = held.contents? path := by
  -- The induction is on the turns from the last one back, as their beginnings are what is kept.
  induction turns using List.reverseRecOn with
  | nil => rfl
  | append_singleton turns turn ih =>
      rw [performAll_concat, ← ih hkeeps.of_append hspares.of_append]
      have hheld := hkeeps turns (List.prefix_append turns [turn])
      have hkept := hkeeps (turns ++ [turn]) (List.prefix_refl _)
      rw [performAll_concat] at hkept
      rw [hguards] at hheld hkept
      exact contents?_perform (hnumbered.performAll turns) hheld hkept hspares.last

/-- Where the path of a temporary file shows nothing any more, it shows nothing unless an operation
changes that. -/
theorem contents?_performAll_eq_none {path : String} {number : Nat} {turns : List Turn}
    (hpath : FileSystem.IsTemporaryPath path number) (hlt : number < held.count)
    (hnone : held.contents? path = none) (hspares : held.Spares path turns) :
    (held.performAll turns).contents? path = none := by
  induction turns using List.reverseRecOn with
  | nil => exact hnone
  | append_singleton turns turn ih =>
      have hbefore := ih hspares.of_append
      have hcount := Nat.lt_of_lt_of_le hlt (held.count_le_performAll turns)
      have hlast := hspares.last
      rw [performAll_concat]
      generalize held.performAll turns = before at *
      cases turn with
      | acquire connection => rw [contents?_acquire hpath hcount, hbefore]
      | operation action => rw [hlast action rfl, hbefore]
      | release =>
          cases hguards : before.guards with
          | nil => rwa [perform_release_of_nil hguards]
          | cons guard guards =>
              rw [perform_release hguards]
              show (guard.releaseIn before.world).files.contents? path = none
              unfold releaseIn
              split
              · exact hbefore
              · split
                · exact FileSystem.contents?_removeFile_eq_none hbefore _
                · exact hbefore

end Holding

end CloudCredentials.Guard
