import CloudCredentials.Log.Subscriber

/-!
# Journals

A journal is what the events of a program become. Subscribers are installed in it, of which the
first one stays, and what is logged before that is lost.
-/

namespace CloudCredentials.Log

/-- A journal: its subscriber, if one has been installed, and the records that have been written,
earliest first. -/
structure Journal where
  subscriber : Option Subscriber
  written : List String
deriving DecidableEq, Repr

namespace Journal

/-- The journal that has neither a subscriber nor records. -/
def empty : Journal := ⟨none, []⟩

/-- Install a subscriber with these settings. -/
def install (journal : Journal) (settings : SubscriberSettings) (filterText : Option String) :
    Except Error Unit × Journal :=
  match Subscriber.install journal.subscriber (.ofSettings settings filterText) with
  | .ok subscriber => (.ok (), { journal with subscriber := some subscriber })
  | .error error => (.error error, journal)

/-- Log events at a time. -/
def observe (journal : Journal) (time : Int) (events : List Event) : Journal :=
  match journal.subscriber with
  | none => journal
  | some subscriber =>
      { journal with written := journal.written ++ subscriber.records time events }

/-- A second subscriber is refused and changes nothing. -/
theorem install_of_subscriber {journal : Journal} {subscriber : Subscriber}
    (h : journal.subscriber = some subscriber) (settings : SubscriberSettings)
    (filterText : Option String) :
    journal.install settings filterText = (.error Subscriber.occupied, journal) := by
  simp [install, h, Subscriber.install]

end Journal

end CloudCredentials.Log
