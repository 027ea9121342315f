import CloudCredentials.Log.Journal
import CloudCredentials.Proofs.Log.Records
import CloudCredentials.Proofs.Log.Settings
import CloudCredentials.Proofs.Session.Recorded
import Mathlib.Data.List.Basic

/-!
# What becomes of the events of a process

A process installs subscribers, runs steps of a session and lets time pass, in any order. The steps
emit events, whoever listens. `first_subscriber_stays` says what is written of them once a
subscriber has been installed: what is at least as severe as its level, in its format, whatever is
installed later.
-/

namespace CloudCredentials.Log

open CloudCredentials.Session (State Step runSteps eventsBetween)

/-- The levels that are at least as severe as a level. -/
def levelsUpTo : Level → List Level
  | .error => [.error]
  | .warn => [.error, .warn]
  | .info => [.error, .warn, .info]
  | .debug => [.error, .warn, .info, .debug]
  | .trace => [.error, .warn, .info, .debug, .trace]

/-- The levels up to a level are those that come no later in the order. -/
theorem mem_levelsUpTo_iff (level other : Level) :
    other ∈ levelsUpTo level ↔ other.rank ≤ level.rank := by
  cases level <;> cases other <;> decide

namespace Emission

/-- The event is at least as severe as a level. -/
def isAtLeast (level : Level) (emission : Emission) : Bool :=
  emission.event.level ∈ levelsUpTo level

/-- The record of the event. -/
def record (format : Format) (emission : Emission) : String :=
  format.record emission.time emission.event

end Emission

/-- What a process does next. -/
inductive Activity where
  | install (settings : SubscriberSettings)
  /-- Steps are run. If the program stops in one of them, that ends these steps and no others. -/
  | run (steps : List Step)
  /-- Nothing happens until a time. -/
  | wait (time : Int)

namespace Activity

/-- The activity is an attempt to install a subscriber. -/
def isInstall : Activity → Bool
  | .install _ => true
  | _ => false

/-- The state of the session after an activity. -/
def after (state : State) : Activity → State
  | .install _ => state
  | .run steps => (runSteps state steps).2
  | .wait time => { state with world := { state.world with clock := time } }

/-- What an activity emits. -/
def emits (state : State) (activity : Activity) : List Emission :=
  (eventsBetween state.world (activity.after state).world).map (.mk state.world.clock)

/-- What activities emit, one after the other. -/
def emissions (state : State) : List Activity → List Emission
  | [] => []
  | activity :: activities => activity.emits state ++ emissions (activity.after state) activities

/-- An attempt to install a subscriber emits nothing. -/
theorem emits_install (state : State) (settings : SubscriberSettings) :
    (install settings).emits state = [] :=
  congrArg (List.map _) List.drop_length

/-- What an activity emits is what it adds to the log. -/
theorem log_after (state : State) (activity : Activity) :
    (activity.after state).world.log =
      state.world.log ++ (activity.emits state).map Emission.event := by
  -- Only that the log grows is needed of each activity: what it grows by is what is emitted.
  have hgrows : ∃ events, (activity.after state).world.log = state.world.log ++ events := by
    cases activity with
    | install settings => exact ⟨[], (List.append_nil _).symm⟩
    | run steps =>
        obtain ⟨events, hlog, _⟩ := Session.recorded_runSteps state steps
        exact ⟨events, hlog⟩
    | wait time => exact ⟨[], (List.append_nil _).symm⟩
  obtain ⟨events, hlog⟩ := hgrows
  have hevents : (activity.emits state).map Emission.event = events := by
    rw [emits, eventsBetween, hlog, List.drop_left, List.map_map]
    exact List.map_id events
  rw [hlog, hevents]

/-- What activities emit is what they add to the log. -/
theorem log_foldl_after (state : State) (activities : List Activity) :
    (activities.foldl after state).world.log =
      state.world.log ++ (emissions state activities).map Emission.event := by
  induction activities generalizing state with
  | nil => exact (List.append_nil _).symm
  | cons activity activities ih =>
      rw [List.foldl_cons, ih, log_after, emissions, List.map_append, List.append_assoc]

end Activity

/-- The records of what is at least as severe as the level of the settings, in their format. -/
def SubscriberSettings.records (settings : SubscriberSettings) (emissions : List Emission) :
    List String :=
  (emissions.filter (·.isAtLeast settings.level)).map (·.record settings.format)

namespace SubscriberSettings

/-- The records of emissions after others come after theirs. -/
theorem records_append (settings : SubscriberSettings) (first second : List Emission) :
    settings.records (first ++ second) = settings.records first ++ settings.records second := by
  rw [records, List.filter_append, List.map_append]
  rfl

/-- A subscriber without the text of a filter writes the records of its settings. -/
theorem records_ofSettings (settings : SubscriberSettings) (time : Int) (events : List Event) :
    (Subscriber.ofSettings settings none).records time events =
      settings.records (events.map (.mk time)) := by
  have hallows : (Subscriber.ofSettings settings none).filter.allows =
      (Emission.isAtLeast settings.level ∘ .mk time) := by
    funext event
    rw [Subscriber.ofSettings, Option.bind_none, Option.getD_none, Filter.ofText_lowerName,
      Filter.allows_ofLevel]
    exact decide_eq_decide.2 (mem_levelsUpTo_iff settings.level event.level).symm
  rw [Subscriber.records, hallows, records, List.filter_map, List.map_map]
  rfl

/-- A lower level in the same format inserts records. -/
theorem records_sublist {settings other : SubscriberSettings}
    (hformat : other.format = settings.format)
    (hlevel : levelsUpTo settings.level ⊆ levelsUpTo other.level) (emissions : List Emission) :
    (settings.records emissions).Sublist (other.records emissions) := by
  rw [records, records, hformat]
  refine List.Sublist.map _ (List.monotone_filter_right emissions fun emission hsevere => ?_)
  exact decide_eq_true (hlevel (of_decide_eq_true hsevere))

/-- The records hold what is severe enough, in order. -/
theorem holds_records (settings : SubscriberSettings) (emissions : List Emission) :
    List.Forall₂ settings.format.Holds (settings.records emissions)
      (emissions.filter (·.isAtLeast settings.level)) := by
  rw [records, List.forall₂_map_left_iff, List.forall₂_same]
  exact fun emission _ => settings.format.holds_record emission.time emission.event

end SubscriberSettings

/-- The state of a session, and what has become of the events so far. -/
structure Process where
  state : State
  journal : Journal

namespace Process

/-- The outcome of an attempt to install a subscriber, and the journal after it. The environment may
hold the text of a filter. -/
def install (process : Process) (settings : SubscriberSettings) : Except Error Unit × Journal :=
  process.journal.install settings (process.state.world.environment.text? filterVariable)

/-- The journal after an activity. -/
def journalAfter (process : Process) : Activity → Journal
  | .install settings => (process.install settings).2
  | activity => process.journal.observe process.state.world.clock
      (eventsBetween process.state.world (activity.after process.state).world)

/-- The process after an activity. -/
def perform (process : Process) (activity : Activity) : Process :=
  ⟨activity.after process.state, process.journalAfter activity⟩

/-- The process after activities. -/
def performAll (process : Process) (activities : List Activity) : Process :=
  activities.foldl perform process

/-- The outcomes of the attempts to install a subscriber, in order. -/
def outcomes (process : Process) : List Activity → List (Except Error Unit)
  | [] => []
  | .install settings :: activities =>
      (process.install settings).1 :: (process.perform (.install settings)).outcomes activities
  | activity :: activities => (process.perform activity).outcomes activities

/-- The journal has nothing to do with the state of the session. -/
theorem state_performAll (process : Process) (activities : List Activity) :
    (process.performAll activities).state = activities.foldl Activity.after process.state := by
  induction activities generalizing process with
  | nil => rfl
  | cons activity activities ih => exact ih (process.perform activity)

variable {process : Process} {subscriber : Subscriber} {settings : SubscriberSettings}

/-- Where there is a subscriber, an attempt to install one fails and changes nothing. -/
theorem perform_install (h : process.journal.subscriber = some subscriber)
    (settings : SubscriberSettings) :
    (process.install settings).1 = .error Subscriber.occupied ∧
      process.perform (.install settings) = process := by
  have hinstall : process.install settings = (.error Subscriber.occupied, process.journal) :=
    Journal.install_of_subscriber h settings _
  refine ⟨congrArg Prod.fst hinstall, ?_⟩
  rw [perform, journalAfter, hinstall]
  rfl

/-- A subscriber stays. -/
theorem subscriber_perform (h : process.journal.subscriber = some subscriber)
    (activity : Activity) : (process.perform activity).journal.subscriber = some subscriber := by
  cases activity with
  | install other =>
      rw [(perform_install h other).2]
      exact h
  | run | wait =>
      show (process.journal.observe _ _).subscriber = some subscriber
      rw [Journal.observe, h]

/-- The records of what an activity emits are written. -/
theorem written_perform (h : process.journal.subscriber = some (.ofSettings settings none))
    (activity : Activity) :
    (process.perform activity).journal.written =
      process.journal.written ++ settings.records (activity.emits process.state) := by
  cases activity with
  | install other =>
      rw [(perform_install h other).2, Activity.emits_install]
      exact (List.append_nil _).symm
  | run | wait =>
      show (process.journal.observe _ _).written = _
      rw [Journal.observe, h, Activity.emits, ← settings.records_ofSettings]

/-- The records of what activities emit are written. -/
theorem written_performAll (h : process.journal.subscriber = some (.ofSettings settings none))
    (activities : List Activity) :
    (process.performAll activities).journal.written =
      process.journal.written ++
        settings.records (Activity.emissions process.state activities) := by
  induction activities generalizing process with
  | nil => exact (List.append_nil _).symm
  | cons activity activities ih =>
      refine (ih (subscriber_perform h activity)).trans ?_
      rw [written_perform h, List.append_assoc, ← settings.records_append]
      rfl

/-- Where there is a subscriber, all attempts to install another one fail. -/
theorem outcomes_of_subscriber (h : process.journal.subscriber = some subscriber)
    (activities : List Activity) :
    process.outcomes activities =
      List.replicate (activities.countP Activity.isInstall) (.error Subscriber.occupied) := by
  induction activities generalizing process with
  | nil => rfl
  | cons activity activities ih =>
      have hrest := ih (subscriber_perform h activity)
      cases activity with
      | install other =>
          rw [outcomes, hrest, (perform_install h other).1, List.countP_cons_of_pos rfl,
            List.replicate_succ]
      | run | wait =>
          rw [List.countP_cons_of_neg Bool.false_ne_true]
          exact hrest

/-- Where there is a subscriber, activities come to the same without the attempts to install
another one. -/
theorem performAll_filter (h : process.journal.subscriber = some subscriber)
    (activities : List Activity) :
    process.performAll (activities.filter (!·.isInstall)) = process.performAll activities := by
  induction activities generalizing process with
  | nil => rfl
  | cons activity activities ih =>
      have hrest := ih (subscriber_perform h activity)
      cases activity with
      | install other =>
          -- The attempt is left out on one side and changes nothing on the other.
          rw [(perform_install h other).2] at hrest
          rw [List.filter_cons_of_neg Bool.false_ne_true]
          exact hrest.trans (congrArg (performAll · activities) (perform_install h other).2.symm)
      | run | wait =>
          rw [List.filter_cons_of_pos rfl]
          exact hrest

/-- The first subscriber is installed with the settings as they are, unless the environment has the
text of a filter. -/
theorem install_first (hnone : process.journal.subscriber = none)
    (hunset : process.state.world.environment.get? filterVariable = none)
    (settings : SubscriberSettings) :
    process.install settings =
      (.ok (), ⟨some (.ofSettings settings none), process.journal.written⟩) := by
  have htext : process.state.world.environment.text? filterVariable = none := by
    rw [Environment.text?, hunset]
    rfl
  rw [install, htext, Journal.install, hnone]
  rfl

/-- The first subscriber that is installed stays. Its settings are what the last calls of each kind
make, and later attempts to install one fail and change nothing. Of all that is emitted from then
on, which is what the session adds to its log, it writes what is at least as severe as its level,
one record for each event, in order, in its format and no other. A lower level in its place only
inserts records. -/
theorem first_subscriber_stays {calls : List DraftCall}
    (hbuild : SubscriberDraft.build calls = .ok settings)
    (hnone : process.journal.subscriber = none)
    (hunset : process.state.world.environment.get? "RUST_LOG" = none)
    (activities : List Activity) :
    settings = ⟨(DraftCall.lastMade DraftCall.level? calls).getD .info,
      (DraftCall.lastMade DraftCall.format? calls).getD .text⟩ ∧
    process.outcomes (.install settings :: activities) =
      .ok () :: List.replicate (activities.countP Activity.isInstall)
        (.error (.telemetry "a global default trace dispatcher has already been set")) ∧
    process.performAll (.install settings :: activities) =
      process.performAll (.install settings :: activities.filter (!·.isInstall)) ∧
    (process.performAll (.install settings :: activities)).state.world.log =
      process.state.world.log ++
        (Activity.emissions process.state activities).map Emission.event ∧
    (∃ records,
      (process.performAll (.install settings :: activities)).journal.written =
        process.journal.written ++ records ∧
      List.Forall₂ settings.format.Holds records
        ((Activity.emissions process.state activities).filter (·.isAtLeast settings.level)) ∧
      ∀ record ∈ records, ∀ (format : Format) (emission : Emission),
        format.Holds record emission → format = settings.format) ∧
    ∀ other : SubscriberSettings, other.format = settings.format →
      levelsUpTo settings.level ⊆ levelsUpTo other.level →
      (process.performAll (.install settings :: activities)).journal.written.Sublist
        (process.performAll (.install other :: activities)).journal.written := by
  -- Stated for all settings, as the last part compares two processes that differ in the first ones.
  have hsubscriber : ∀ chosen, (process.perform (.install chosen)).journal =
      ⟨some (.ofSettings chosen none), process.journal.written⟩ := fun chosen =>
    congrArg Prod.snd (install_first hnone hunset chosen)
  have hstays : ∀ chosen, (process.perform (.install chosen)).journal.subscriber =
      some (.ofSettings chosen none) := fun chosen =>
    congrArg Journal.subscriber (hsubscriber chosen)
  have hwritten : ∀ chosen,
      (process.performAll (.install chosen :: activities)).journal.written =
        process.journal.written ++
          chosen.records (Activity.emissions process.state activities) := by
    intro chosen
    refine (written_performAll (hstays chosen) activities).trans ?_
    rw [hsubscriber]
    rfl
  refine ⟨((SubscriberDraft.build_eq_ok_iff calls settings).1 hbuild).2, ?_, ?_, ?_,
    ⟨_, hwritten settings, settings.holds_records _, ?_⟩, ?_⟩
  · rw [outcomes, outcomes_of_subscriber (hstays settings) activities,
      install_first hnone hunset settings]
    rfl
  · exact (performAll_filter (hstays settings) activities).symm
  · rw [state_performAll]
    exact Activity.log_foldl_after process.state activities
  · intro record hmem format emission hholds
    obtain ⟨told, _, rfl⟩ := List.mem_map.1 hmem
    exact hholds.format_unique (settings.format.holds_record told.time told.event)
  · intro other hformat hlevel
    rw [hwritten settings, hwritten other]
    exact (SubscriberSettings.records_sublist hformat hlevel _).append_left _

/-- A subscriber that is to write everything comes too late, and what is not severe enough for the
first one stays unwritten. -/
theorem first_subscriber_stays_of_two :
    let calls : List DraftCall := [.levelText "TRACE", .format .text, .levelText "3", .format .json]
    let process : Process := ⟨⟨⟨[], .initial, 0, ⟨false, [], [], .ignored⟩, []⟩, .empty⟩, .empty⟩
    let keyed : Connection := ⟨some "key.json", none, none, none⟩
    let options : ResolverOptions := ⟨none, none, some (.token "t"), none⟩
    let activities : List Activity :=
      [.install ⟨.trace, .text⟩, .run [.operation (.acquireGuard "g" keyed)], .wait 60,
        .run [.operation (.makeResolver "r" (.given .empty) options),
          .operation (.useResolver "r" .accessToken)]]
    let record :=
      "\x7b\"timestamp\":\"1970-01-01T00:01:00.000000Z\",\"level\":\"INFO\"," ++
        "\"fields\":\x7b\"message\":\"Getting connection using default credentials since no " ++
        "key file is defined for hook.\",\"conn_id\":\"google_cloud_default\"\x7d," ++
        "\"target\":\"gcp_base_hook::auth\"\x7d"
    let line :=
      "1970-01-01T00:01:00.000000Z  INFO gcp_base_hook::auth: Getting connection using default " ++
        "credentials since no key file is defined for hook. conn_id=google_cloud_default"
    SubscriberDraft.build calls = .ok ⟨.info, .json⟩ ∧
      process.outcomes (.install ⟨.info, .json⟩ :: activities) =
        [.ok (), .error (.telemetry "a global default trace dispatcher has already been set")] ∧
      (Activity.emissions process.state activities).length = 2 ∧
      (process.performAll (.install ⟨.info, .json⟩ :: activities)).journal.written = [record] ∧
      List.Forall₂ Format.json.Holds [record]
        ((Activity.emissions process.state activities).filter (·.isAtLeast .info)) ∧
      (process.performAll (.install ⟨.info, .text⟩ :: activities)).journal.written = [line] := by
  intro calls process keyed options activities record line
  have hbuild : SubscriberDraft.build calls = .ok ⟨.info, .json⟩ := rfl
  have hnone : process.journal.subscriber = none := rfl
  have hunset : process.state.world.environment.get? "RUST_LOG" = none := rfl
  obtain ⟨_, houtcomes, _, _, ⟨records, hwritten, hholds, _⟩, _⟩ :=
    first_subscriber_stays hbuild hnone hunset activities
  have hrecord : (process.performAll (.install ⟨.info, .json⟩ :: activities)).journal.written =
      [record] := by decide +kernel
  obtain rfl : records = [record] := hwritten.symm.trans hrecord
  exact ⟨hbuild, houtcomes, by decide +kernel, hrecord, hholds, by decide +kernel⟩

end Process

end CloudCredentials.Log
