import CloudCredentials.Error
import CloudCredentials.Log.Filter
import CloudCredentials.Log.Record

/-!
# Log subscribers

A subscriber writes the events that its filter lets through, in its format. There is one subscriber
at most: the first that is installed stays, and later ones are refused.
-/

namespace CloudCredentials.Log

/-- The settings of a subscriber. -/
structure SubscriberSettings where
  level : Level
  format : Format
deriving DecidableEq, Repr

namespace SubscriberSettings

/-- The settings that stand in for those that are never made. -/
def standard : SubscriberSettings := ⟨.info, .text⟩

/-- The settings for finding faults. -/
def debugging : SubscriberSettings := ⟨.debug, .text⟩

end SubscriberSettings

/-- Settings in the making. -/
structure SubscriberDraft where
  level : Option Level
  format : Option Format
deriving DecidableEq, Repr

/-- A call on a draft, which makes a setting. -/
inductive DraftCall where
  | level (level : Level)
  | levelText (text : String)
  | format (format : Format)
deriving DecidableEq, Repr

namespace SubscriberDraft

/-- The draft without any setting. -/
def empty : SubscriberDraft := ⟨none, none⟩

/-- Set the level. -/
def withLevel (draft : SubscriberDraft) (level : Level) : SubscriberDraft :=
  { draft with level := some level }

/-- Set the level that a text names. -/
def withLevelText (draft : SubscriberDraft) (text : String) : Except Error SubscriberDraft :=
  match Level.read? text with
  | some level => .ok (draft.withLevel level)
  | none =>
      .error (.telemetry
        ("Invalid log level: " ++ text ++ ". Valid options: trace, debug, info, warn, error"))

/-- Set the format. -/
def withFormat (draft : SubscriberDraft) (format : Format) : SubscriberDraft :=
  { draft with format := some format }

/-- The settings that the draft makes. -/
def settings (draft : SubscriberDraft) : SubscriberSettings where
  level := draft.level.getD SubscriberSettings.standard.level
  format := draft.format.getD SubscriberSettings.standard.format

/-- The draft after a call. -/
def perform (draft : SubscriberDraft) : DraftCall → Except Error SubscriberDraft
  | .level level => .ok (draft.withLevel level)
  | .levelText text => draft.withLevelText text
  | .format format => .ok (draft.withFormat format)

/-- The settings that calls make, one after the other. The first call that fails is the last. -/
def build (calls : List DraftCall) : Except Error SubscriberSettings :=
  (calls.foldlM perform empty).map settings

end SubscriberDraft

/-- The variable whose text goes before the level of the settings. -/
def filterVariable : String := "RUST_LOG"

/-- What writes records. -/
structure Subscriber where
  filter : Filter
  format : Format
deriving DecidableEq, Repr

namespace Subscriber

/-- The subscriber with these settings. The text of the filter variable, if it is set to a filter,
goes before the level, which states a filter by its name. -/
def ofSettings (settings : SubscriberSettings) (filterText : Option String) : Subscriber where
  filter := (filterText.bind Filter.read?).getD (.ofText settings.level.lowerName)
  format := settings.format

/-- The error of an attempt to install a subscriber where there is one. -/
def occupied : Error := .telemetry "a global default trace dispatcher has already been set"

/-- The subscriber that is there after one has been installed where this one was. -/
def install (present : Option Subscriber) (subscriber : Subscriber) : Except Error Subscriber :=
  match present with
  | none => .ok subscriber
  | some _ => .error occupied

/-- The records of events at a time. -/
def records (subscriber : Subscriber) (time : Int) (events : List Event) : List String :=
  (events.filter subscriber.filter.allows).map (subscriber.format.record time)

end Subscriber

/-- The lines of a record that name this library. -/
def linesNaming (mark : String) (record : String) : List String :=
  ((Text.separate (· == '\n') record.toList).filter
    fun line => (Text.breakAt? mark.toList line).isSome).map String.ofList

end CloudCredentials.Log
