import CloudCredentials.Json.Value
import CloudCredentials.Log.Timestamp
import CloudCredentials.Text.Quoted
import CloudCredentials.World.Event

/-!
# Log records

A record is the written form of an event: a line of text with the time, the level, the target, the
message and the fields, or a JSON document with the same content.
-/

namespace CloudCredentials.Log

/-- How records are written. -/
inductive Format where
  | text
  | json
deriving DecidableEq, Repr

/-- The name of a format. -/
def Format.name : Format → String
  | .text => "text"
  | .json => "json"

/-- The width of the level in a line of text. -/
def levelWidth : Nat := 5

/-- A field in a line of text. -/
def fieldText (field : LogField) : String :=
  " " ++ field.name ++ "=" ++ if field.quoted then Text.quoted field.value else field.value

/-- The record of an event as a line of text. -/
def textRecord (time : Int) (event : Event) : String :=
  let level := event.level.name
  let space := String.ofList (List.replicate (levelWidth - level.length) ' ')
  timestamp time ++ " " ++ space ++ level ++ " " ++ event.speaker.target ++ ": " ++ event.message ++
    String.join (event.fields.map fieldText)

/-- The record of an event as a JSON document. -/
def jsonRecord (time : Int) (event : Event) : Json.Value :=
  .object [("timestamp", .string (timestamp time)), ("level", .string event.level.name),
    ("fields", .object (("message", .string event.message) ::
      event.fields.map fun field => (field.name, .string field.value))),
    ("target", .string event.speaker.target)]

/-- The record of an event. -/
def Format.record (format : Format) (time : Int) (event : Event) : String :=
  match format with
  | .text => textRecord time event
  | .json => (jsonRecord time event).text

end CloudCredentials.Log
