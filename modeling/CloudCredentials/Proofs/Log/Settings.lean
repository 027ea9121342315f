import CloudCredentials.Log.Subscriber

/-!
# Settings that calls make

Each call on a draft of settings makes one of them, and of the calls that make the same setting the
last one counts. `build_eq_ok_iff` says so, and which calls make settings at all: those whose texts
all name a level.
-/

namespace CloudCredentials.Log

namespace DraftCall

/-- The level that a call makes. -/
def level? : DraftCall → Option Level
  | .level chosen => some chosen
  | .levelText text => Level.read? text
  | .format _ => none

/-- The format that a call makes. -/
def format? : DraftCall → Option Format
  | .format chosen => some chosen
  | _ => none

/-- The text of the call, if it has one, names a level. -/
def NamesLevel (call : DraftCall) : Prop :=
  ∀ text, call = .levelText text → ∃ level, Level.read? text = some level

/-- What the last of those calls makes that make something. -/
def lastMade {α : Type} (made : DraftCall → Option α) (calls : List DraftCall) : Option α :=
  (calls.filterMap made).getLast?

/-- What the first call makes counts if no later call makes anything. -/
theorem lastMade_cons {α : Type} (made : DraftCall → Option α) (call : DraftCall)
    (calls : List DraftCall) :
    lastMade made (call :: calls) = (lastMade made calls).or (made call) := by
  rw [lastMade, lastMade]
  cases hmade : made call with
  | none => rw [List.filterMap_cons_none hmade, Option.or_none]
  | some value =>
      rw [List.filterMap_cons_some hmade, List.getLast?_cons]
      cases (calls.filterMap made).getLast? <;> rfl

end DraftCall

namespace SubscriberDraft

/-- The draft with what a call makes in the place of what was made before. -/
def made (draft : SubscriberDraft) (level : Option Level) (format : Option Format) :
    SubscriberDraft :=
  ⟨level.or draft.level, format.or draft.format⟩

/-- A call makes its setting, unless it has a text that names no level. -/
theorem perform_of_namesLevel (draft : SubscriberDraft) {call : DraftCall} (h : call.NamesLevel) :
    draft.perform call = .ok (draft.made call.level? call.format?) := by
  cases call with
  | level level => rfl
  | levelText text =>
      obtain ⟨level, hread⟩ := h text rfl
      show draft.withLevelText text = _
      rw [withLevelText, DraftCall.level?, hread]
      rfl
  | format format => rfl

/-- A call with a text that names no level fails. -/
theorem namesLevel_of_perform {draft next : SubscriberDraft} {call : DraftCall}
    (h : draft.perform call = .ok next) : call.NamesLevel := by
  rintro text rfl
  change draft.withLevelText text = .ok next at h
  rw [withLevelText] at h
  cases hread : Level.read? text with
  | none =>
      rw [hread] at h
      cases h
  | some level => exact ⟨level, rfl⟩

/-- Calls whose texts name levels make what the last of them make. -/
theorem foldlM_perform (draft : SubscriberDraft) {calls : List DraftCall}
    (h : ∀ call ∈ calls, call.NamesLevel) :
    calls.foldlM perform draft =
      .ok (draft.made (DraftCall.lastMade DraftCall.level? calls)
        (DraftCall.lastMade DraftCall.format? calls)) := by
  induction calls generalizing draft with
  | nil => rfl
  | cons call calls ih =>
      obtain ⟨hcall, hcalls⟩ := List.forall_mem_cons.1 h
      rw [List.foldlM_cons, draft.perform_of_namesLevel hcall]
      refine (ih _ hcalls).trans ?_
      -- On both sides later calls go before this one, and this one goes before the draft.
      simp only [made, DraftCall.lastMade_cons, Option.or_assoc]

/-- Calls of which one has a text that names no level fail. -/
theorem namesLevel_of_foldlM {draft last : SubscriberDraft} {calls : List DraftCall}
    (h : calls.foldlM perform draft = .ok last) : ∀ call ∈ calls, call.NamesLevel := by
  induction calls generalizing draft with
  | nil => exact List.forall_mem_nil _
  | cons call calls ih =>
      rw [List.foldlM_cons] at h
      cases hperform : draft.perform call with
      | error error =>
          rw [hperform] at h
          cases h
      | ok next =>
          rw [hperform] at h
          exact List.forall_mem_cons.2 ⟨namesLevel_of_perform hperform, ih h⟩

/-- Calls make settings if their texts all name levels. What the last calls make is set, and level
and format have their standard values where no call makes them. -/
theorem build_eq_ok_iff (calls : List DraftCall) (settings : SubscriberSettings) :
    build calls = .ok settings ↔
      (∀ call ∈ calls, call.NamesLevel) ∧
        settings = ⟨(DraftCall.lastMade DraftCall.level? calls).getD .info,
          (DraftCall.lastMade DraftCall.format? calls).getD .text⟩ := by
  have hbuild : (∀ call ∈ calls, call.NamesLevel) → build calls =
      .ok ⟨(DraftCall.lastMade DraftCall.level? calls).getD .info,
        (DraftCall.lastMade DraftCall.format? calls).getD .text⟩ := by
    intro hnames
    rw [build, foldlM_perform empty hnames, made, empty, Option.or_none, Option.or_none]
    rfl
  constructor
  · intro h
    have hnames : ∀ call ∈ calls, call.NamesLevel := by
      cases hcalls : calls.foldlM perform empty with
      | error error =>
          rw [build, hcalls] at h
          cases h
      | ok draft => exact namesLevel_of_foldlM hcalls
    rw [hbuild hnames] at h
    exact ⟨hnames, (Except.ok.inj h).symm⟩
  · rintro ⟨hnames, rfl⟩
    exact hbuild hnames

end SubscriberDraft

end CloudCredentials.Log
