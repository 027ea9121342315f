import CloudCredentials.Connection.Settings

/-!
# Stored connections

A connection is stored as the extra fields of a connection form, and these are stored in a JSON
document as an object or as a string that holds one. A setting is looked up under its form name
first and under its bare name second.
-/

namespace CloudCredentials

/-- The text of a stored value. A string stands for itself, null for nothing, and every other
value for its compact JSON text. -/
def storedText : Json.Value → Option String
  | .null => none
  | .string text => some text
  | value => some value.text

namespace Connection

/-- The text stored for a setting: the one under its form name, unless that is absent or empty,
and else the one under its bare name. -/
def extraText (extras : Json.Members) (setting : Setting) : Option String :=
  (nonEmpty ((Json.member? setting.formName extras).bind storedText)).or
    ((Json.member? setting.name extras).bind storedText)

/-- The connection that extra fields describe. -/
def ofExtras (extras : Json.Members) : Connection :=
  ofStored (extraText extras)

/-- The extra fields that the `extra` member of a document holds. -/
def extrasOf : Option Json.Value → Option Json.Members
  | none => some []
  | some .null => some []
  | some (.object members) => some members
  | some (.string text) =>
      if text = "" then some []
      else
        match Json.readText text with
        | .ok (.object members) => some members
        | _ => none
  | some _ => none

/-- The `extra` member of a document. -/
def readExtra (text : String) : Except Json.Fault (Option Json.Value) :=
  match Json.readRecord ["extra"] (Bytes.ofText text) with
  | .error fault => .error fault
  | .ok [some tree] =>
      -- The record itself is one level of nesting.
      match tree.value? (Json.greatestDepth - 1) with
      | some value => .ok (some value)
      | none => .error .malformed
  | .ok _ => .ok none

/-- The connection that a stored document describes. -/
def ofDocument (identifier text : String) : Except Error Connection :=
  match readExtra text with
  | .error fault =>
      .error (.configuration
        (.unreadable ("connection " ++ identifier ++ " is not valid JSON: ") fault))
  | .ok extra =>
      match extrasOf extra with
      | some extras => .ok (ofExtras extras)
      | none =>
          .error (.configuration
            (.stated ("extra of connection " ++ identifier ++ " is not a JSON object")))

/-- The connection that a JSON text gives setting by setting, under the bare names. -/
def ofJson (text : String) : Except Error Connection :=
  match Json.readRecord (Setting.all.map Setting.name) (Bytes.ofText text) with
  | .error fault => .error (.parse (.unreadable "" fault))
  | .ok trees =>
      match trees.mapM Json.Tree.optionalText? with
      | some [keyPath, keyData, scope, project] => .ok ⟨keyPath, keyData, scope, project⟩
      | _ => .error (.parse (.unreadable "" .unsuitable))

end Connection

end CloudCredentials
