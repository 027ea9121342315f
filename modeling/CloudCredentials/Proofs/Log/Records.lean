import CloudCredentials.Log.Record
import CloudCredentials.Proofs.Json.Documents
import CloudCredentials.Proofs.Json.Grammar
import CloudCredentials.Proofs.Log.Calendar
import Mathlib.Data.List.Forall2

/-!
# What a record holds

A record tells the time, the level, the target, the message and the fields of an event, as a line of
text or as a JSON document. `Format.Holds` spells both out, and `holds_record` says that every record
holds its event. A record is in one format only, `Format.Holds.format_unique`.
-/

namespace CloudCredentials.Log

/-! ## Times -/

/-- A number below a hundred in two digits. -/
def twoDigits (value : Nat) : String :=
  String.ofList [Nat.digitChar (value / 10), Nat.digitChar (value % 10)]

/-- A year in four digits, or in as many as it takes, and with a sign if it is not one of these. -/
def spelledYear (year : Int) : String :=
  (if 9999 < year then "+" else if year < 0 then "-" else "") ++
    if year.natAbs ≤ 9999 then twoDigits (year.natAbs / 100) ++ twoDigits (year.natAbs % 100)
    else year.natAbs.repr

/-- `Stamps stamp time` says that a text gives the date and the time of day of a time. -/
inductive Stamps : String → Int → Prop where
  | mk {days : Int} {date : Date} {hour minute second : Nat} (hdate : date.Falls days)
      (hhour : hour < 24) (hminute : minute < 60) (hsecond : second < 60) :
      Stamps
        (spelledYear date.year ++ "-" ++ twoDigits date.month ++ "-" ++ twoDigits date.day ++ "T" ++
          twoDigits hour ++ ":" ++ twoDigits minute ++ ":" ++ twoDigits second ++ ".000000Z")
        (days * 86400 + hour * 3600 + minute * 60 + second)

/-- A number in one column more has its last digit there. -/
theorem padded_succ {width : Nat} (h : 0 < width) (value : Nat) :
    padded (width + 1) value = padded width (value / 10) ++ [Nat.digitChar (value % 10)] := by
  rw [padded, padded]
  by_cases hsmall : value < 10
  · rw [Nat.toDigits_of_lt_base hsmall, Nat.div_eq_of_lt hsmall, Nat.mod_eq_of_lt hsmall]
    obtain ⟨width, rfl⟩ : ∃ less, width = less + 1 := ⟨width - 1, by omega⟩
    simp [List.replicate_succ']
  · rw [Nat.toDigits_of_base_le (by decide) (Nat.le_of_not_lt hsmall)]
    simp

/-- A digit in one column. -/
theorem padded_one {value : Nat} (h : value < 10) : padded 1 value = [Nat.digitChar value] := by
  rw [padded, Nat.toDigits_of_lt_base h]
  rfl

/-- Two digits in two columns. -/
theorem padded_two {value : Nat} (h : value < 100) : padded 2 value = (twoDigits value).toList := by
  rw [padded_succ Nat.one_pos, padded_one (by omega), twoDigits, String.toList_ofList]
  rfl

/-- Four digits in four columns. -/
theorem padded_four {value : Nat} (h : value ≤ 9999) :
    padded 4 value = (twoDigits (value / 100) ++ twoDigits (value % 100)).toList := by
  have hhundreds : value / 10 / 10 = value / 100 := by omega
  have htens : value / 10 % 10 = value % 100 / 10 := by omega
  have hones : value % 10 = value % 100 % 10 := by omega
  have hlast : (twoDigits (value % 100)).toList =
      [Nat.digitChar (value / 10 % 10), Nat.digitChar (value % 10)] := by
    rw [twoDigits, String.toList_ofList, htens, hones]
  rw [padded_succ (by decide), padded_succ (by decide), hhundreds, padded_two (by omega),
    String.toList_append, hlast, List.append_assoc, List.singleton_append]

/-- More than four digits need no zeros. -/
theorem padded_of_lt {width value : Nat} (hwidth : width ≤ 4) (h : 9999 < value) :
    padded width value = value.repr.toList := by
  have hlength : ¬ (Nat.toDigits 10 value).length ≤ 4 := by
    rw [Nat.length_toDigits_le_iff (by decide) (by decide)]
    omega
  rw [padded, Nat.toList_repr, Nat.sub_eq_zero_of_le (by omega)]
  rfl

/-- The text of a year. -/
theorem ofList_yearText (year : Int) : String.ofList (yearText year) = spelledYear year := by
  rw [← String.toList_inj, String.toList_ofList, yearText, spelledYear, String.toList_append]
  split
  · next hlate =>
      have hdigits : 9999 < year.natAbs := by omega
      have hyear : year.toNat = year.natAbs := by omega
      rw [if_neg (by omega), hyear, padded_of_lt (Nat.zero_le 4) hdigits]
      rfl
  · next hlate =>
      split
      · next hearly =>
          have hyear : (-year).toNat = year.natAbs := by omega
          rw [hyear]
          split
          · next hdigits =>
              rw [padded_four hdigits]
              rfl
          · next hdigits =>
              rw [padded_of_lt (Nat.le_refl 4) (by omega)]
              rfl
      · next hearly =>
          have hyear : year.toNat = year.natAbs := by omega
          rw [hyear, if_pos (by omega), padded_four (by omega)]
          rfl

/-- The text of a time gives that time. -/
theorem stamps_timestamp (time : Int) : Stamps (timestamp time) time := by
  let date := Date.ofDays (time / 86400)
  let second := (time % 86400).toNat
  have hdate : date.Falls (time / 86400) := (Date.falls_iff _ _).2 rfl
  have hvalid : date.IsValid := Date.isValid_ofDays _
  have hmonth : date.month < 100 := Nat.lt_of_le_of_lt hvalid.month_le (by decide)
  have hday : date.day < 100 :=
    Nat.lt_of_le_of_lt (Nat.le_trans hvalid.day_le (Date.monthLength_le _ _)) (by decide)
  have hsecond : second < 86400 := by omega
  have hhour : second / 3600 < 24 := by omega
  have hminute : second / 60 % 60 < 60 := Nat.mod_lt _ (by decide)
  have hrest : second % 60 < 60 := Nat.mod_lt _ (by decide)
  have htime : time = time / 86400 * 86400 + (second / 3600 : Nat) * 3600 +
      (second / 60 % 60 : Nat) * 60 + (second % 60 : Nat) := by omega
  have hstamp : timestamp time = spelledYear date.year ++ "-" ++ twoDigits date.month ++ "-" ++
      twoDigits date.day ++ "T" ++ twoDigits (second / 3600) ++ ":" ++
      twoDigits (second / 60 % 60) ++ ":" ++ twoDigits (second % 60) ++ ".000000Z" := by
    have hmarks : "-".toList = ['-'] ∧ "T".toList = ['T'] ∧ ":".toList = [':'] := by simp
    rw [← ofList_yearText, ← String.toList_inj]
    simp only [String.toList_append, String.toList_ofList, ← padded_two hmonth, ← padded_two hday,
      ← padded_two (Nat.lt_trans hhour (by decide : 24 < 100)),
      ← padded_two (Nat.lt_trans hminute (by decide : 60 < 100)),
      ← padded_two (Nat.lt_trans hrest (by decide : 60 < 100)), timestamp,
      daySeconds, hmarks, List.append_assoc, List.cons_append, List.nil_append]
    rfl
  have hstamps := Stamps.mk hdate hhour hminute hrest
  rwa [← hstamp, ← htime] at hstamps

/-! ## Levels and targets -/

/-- The word for a level. -/
def levelWord : Level → String
  | .error => "ERROR"
  | .warn => "WARN"
  | .info => "INFO"
  | .debug => "DEBUG"
  | .trace => "TRACE"

/-- The word for a level, at the right of five columns. -/
def levelColumn : Level → String
  | .error => "ERROR"
  | .warn => " WARN"
  | .info => " INFO"
  | .debug => "DEBUG"
  | .trace => "TRACE"

/-- The full name of a part of the library. -/
def targetPath : Speaker → String
  | .connection => "gcp_base_hook::connection"
  | .auth => "gcp_base_hook::auth"
  | .http => "gcp_base_hook::http"
  | .credentialFile => "gcp_base_hook::credential_file"

/-- A level goes by its word. -/
theorem name_eq_levelWord (level : Level) : level.name = levelWord level := by
  cases level <;> rfl

/-- A part of the library goes by its full name. -/
theorem target_eq_targetPath (speaker : Speaker) : speaker.target = targetPath speaker := by
  cases speaker <;> rfl

/-! ## Fields -/

/-- `Quotes character shown` says how a character is shown between quotes. -/
inductive Quotes : Char → List Char → Prop where
  | quote : Quotes '"' ['\\', '"']
  | backslash : Quotes '\\' ['\\', '\\']
  | newline : Quotes '\n' ['\\', 'n']
  | carriageReturn : Quotes '\r' ['\\', 'r']
  | tab : Quotes '\t' ['\\', 't']
  | nul : Quotes '\x00' ['\\', '0']
  | shown {character : Char} (h : Text.isShown character = true) (hquote : character ≠ '"')
      (hbackslash : character ≠ '\\') : Quotes character [character]
  | hidden {character : Char} (h : Text.isShown character = false)
      (hnamed : character ∉ ['\n', '\r', '\t', '\x00']) :
      Quotes character (['\\', 'u', '\x7b'] ++ Nat.toDigits 16 character.toNat ++ ['\x7d'])

/-- `ShowsField field shown` says how a field stands in a line of text. -/
inductive ShowsField : LogField → String → Prop where
  | plain {name value : String} : ShowsField ⟨name, value, false⟩ (" " ++ name ++ "=" ++ value)
  | quoted {name value : String} {shown : List (List Char)}
      (h : List.Forall₂ Quotes value.toList shown) :
      ShowsField ⟨name, value, true⟩
        (" " ++ name ++ "=\"" ++ String.ofList shown.flatten ++ "\"")

/-- Characters are shown as they are quoted. -/
theorem quotes_quotedChar (character : Char) : Quotes character (Text.quotedChar character) := by
  rw [Text.quotedChar]
  split
  · next h => rw [h]; exact .quote
  split
  · next h => rw [h]; exact .backslash
  split
  · next h => rw [h]; exact .newline
  split
  · next h => rw [h]; exact .carriageReturn
  split
  · next h => rw [h]; exact .tab
  split
  · next h =>
      obtain rfl : character = '\x00' := Char.toNat_inj.1 h
      exact .nul
  split
  · next hquote hbackslash _ _ _ _ h => exact .shown h hquote hbackslash
  · next _ _ hnewline hreturn htab hnul h =>
      refine .hidden (Bool.eq_false_iff.2 h) ?_
      simp only [List.mem_cons, List.not_mem_nil, or_false, not_or]
      exact ⟨hnewline, hreturn, htab, fun heq => hnul (heq ▸ rfl)⟩

/-- Fields are shown as they stand in a line of text. -/
theorem showsField_fieldText (field : LogField) : ShowsField field (fieldText field) := by
  obtain ⟨name, value, quoted⟩ := field
  cases quoted with
  | false => exact .plain
  | true =>
      have hquotes : List.Forall₂ Quotes value.toList (value.toList.map Text.quotedChar) := by
        rw [List.forall₂_map_right_iff, List.forall₂_same]
        exact fun character _ => quotes_quotedChar character
      have htext : fieldText ⟨name, value, true⟩ = " " ++ name ++ "=\"" ++
          String.ofList (value.toList.map Text.quotedChar).flatten ++ "\"" := by
        rw [← String.toList_inj]
        simp [fieldText, Text.quoted, List.flatMap]
      rw [htext]
      exact .quoted hquotes

/-! ## Records -/

/-- A member of a document has a name and a string. -/
def HoldsString (member : List Json.Piece × Json.Tree) (entry : String × String) : Prop :=
  Json.pieceText member.1 = some entry.1 ∧
    ∃ pieces, member.2 = .string pieces ∧ Json.pieceText pieces = some entry.2

/-- An event with the time at which it is emitted. -/
structure Emission where
  time : Int
  event : Event

/-- `Format.Holds format record emission` says that a record in a format tells of an event and the
time at which it is emitted. -/
inductive Format.Holds : Format → String → Emission → Prop where
  /-- A line has the time, the level, the target, the message and the fields, in this order. -/
  | text {time : Int} {event : Event} {stamp : String} {fields : List String}
      (hstamp : Stamps stamp time) (hfields : List.Forall₂ ShowsField event.fields fields) :
      Holds .text
        (stamp ++ " " ++ levelColumn event.level ++ " " ++ targetPath event.speaker ++ ": " ++
          event.message ++ String.join fields)
        ⟨time, event⟩
  /-- A document is an object with the time, the level, the fields and the target. The message is the
  first of the fields. -/
  | json {time : Int} {event : Event} {record stamp : String}
      {first second last : List Json.Piece × Json.Tree} {name : List Json.Piece}
      {fields : List (List Json.Piece × Json.Tree)}
      (hdocument : (Json.Tree.object [first, second, (name, .object fields), last]).WrittenAs
        (Bytes.ofText record))
      (htime : HoldsString first ("timestamp", stamp)) (hstamp : Stamps stamp time)
      (hlevel : HoldsString second ("level", levelWord event.level))
      (hname : Json.pieceText name = some "fields")
      (hfields : List.Forall₂ HoldsString fields
        (("message", event.message) :: event.fields.map fun field => (field.name, field.value)))
      (htarget : HoldsString last ("target", targetPath event.speaker)) :
      Holds .json record ⟨time, event⟩

/-- A line of text holds its event. -/
theorem holds_textRecord (time : Int) (event : Event) :
    Format.text.Holds (textRecord time event) ⟨time, event⟩ := by
  have hfields : List.Forall₂ ShowsField event.fields (event.fields.map fieldText) := by
    rw [List.forall₂_map_right_iff, List.forall₂_same]
    exact fun field _ => showsField_fieldText field
  have hcolumn : String.ofList (List.replicate (levelWidth - event.level.name.length) ' ') ++
      event.level.name = levelColumn event.level := by
    cases event.level <;> rfl
  have hrecord : textRecord time event = timestamp time ++ " " ++ levelColumn event.level ++ " " ++
      targetPath event.speaker ++ ": " ++ event.message ++
      String.join (event.fields.map fieldText) := by
    rw [← hcolumn, ← target_eq_targetPath, ← String.append_assoc]
    rfl
  rw [hrecord]
  exact .text (stamps_timestamp time) hfields

/-- A member with a string, as it is written and read. -/
def stringMember (entry : String × String) : Json.ReadMember :=
  ⟨entry.1, .string entry.2, .string (Json.textPieces entry.2), Json.Value.string_readsAs entry.2⟩

/-- It is read as it is written. -/
theorem holdsString_stringMember (entry : String × String) :
    HoldsString (stringMember entry).read entry :=
  ⟨Json.pieceText_textPieces entry.1, _, rfl, Json.pieceText_textPieces entry.2⟩

/-- A document holds its event. -/
theorem holds_jsonRecord (time : Int) (event : Event) :
    Format.json.Holds (jsonRecord time event).text ⟨time, event⟩ := by
  let entries : List (String × String) :=
    ("message", event.message) :: event.fields.map fun field => (field.name, field.value)
  let fields : Json.ReadMember :=
    ⟨"fields", _, _, Json.Value.object_readsAs (entries.map stringMember)⟩
  let members : List Json.ReadMember :=
    [stringMember ("timestamp", timestamp time), stringMember ("level", levelWord event.level),
      fields, stringMember ("target", targetPath event.speaker)]
  have hfields : (entries.map stringMember).map Json.ReadMember.written =
      ("message", .string event.message) ::
        event.fields.map fun field => (field.name, .string field.value) := by
    simp [entries, stringMember, Json.ReadMember.written]
  have hrecord : jsonRecord time event = .object (members.map Json.ReadMember.written) := by
    rw [jsonRecord, name_eq_levelWord, target_eq_targetPath, ← hfields]
    rfl
  have hread := Json.read_of_readsAs (Json.Value.object_readsAs members)
  rw [← hrecord, Json.read_eq_some_iff] at hread
  refine .json hread (holdsString_stringMember _) (stamps_timestamp time)
    (holdsString_stringMember _) (Json.pieceText_textPieces _) ?_ (holdsString_stringMember _)
  rw [List.map_map, List.forall₂_map_left_iff, List.forall₂_same]
  exact fun entry _ => holdsString_stringMember entry

/-- Every record holds its event. -/
theorem Format.holds_record (format : Format) (time : Int) (event : Event) :
    format.Holds (format.record time event) ⟨time, event⟩ := by
  cases format with
  | text => exact holds_textRecord time event
  | json => exact holds_jsonRecord time event

/-! ## Formats -/

/-- The text of a year begins as a number does. -/
theorem spelledYear_begins (year : Int) :
    ∃ first rest, (spelledYear year).toList = first :: rest ∧ Json.InNumber first := by
  rw [spelledYear, String.toList_append]
  split
  · exact ⟨'+', _, rfl, .inr (.inr (.inl rfl))⟩
  · next hlate =>
      split
      · exact ⟨'-', _, rfl, .inr (.inl rfl)⟩
      · rw [if_pos (by omega)]
        simp only [twoDigits, String.toList_append, String.toList_ofList, List.cons_append]
        refine ⟨Nat.digitChar (year.natAbs / 100 / 10), _, rfl, .inl ?_⟩
        rw [Nat.isDigit_digitChar, decide_eq_true_eq]
        omega

/-- The text of a time begins as a number does. -/
theorem Stamps.begins {stamp : String} {time : Int} (h : Stamps stamp time) :
    ∃ first rest, stamp.toList = first :: rest ∧ Json.InNumber first := by
  cases h with
  | @mk _ date =>
      obtain ⟨first, rest, hyear, hfirst⟩ := spelledYear_begins date.year
      simp only [String.toList_append, hyear, List.cons_append]
      exact ⟨first, _, rfl, hfirst⟩

/-- What is written as an object begins with its mark, or with a blank. -/
theorem begins_of_writtenAs {members : List (List Json.Piece × Json.Tree)} {byte : UInt8}
    {input : Bytes} (h : (Json.Tree.object members).WrittenAs (byte :: input)) :
    Json.isBlankByte byte = true ∨ byte = 0x7B := by
  rw [Json.Tree.WrittenAs] at h
  generalize htokens : (Json.Tree.object members).tokens = tokens at h
  generalize hinput : byte :: input = bytes at h
  cases h with
  | nil => cases hinput
  | blank other hblank tokens input hmore =>
      cases hinput
      exact .inl hblank
  | token token written hspelled tokens input hmore =>
      rw [Json.Tree.tokens] at htokens
      cases htokens
      cases hspelled with
      | fixed _ _ hfixed =>
          cases hfixed
          cases hinput
          exact .inr rfl

/-- What begins as a number does is not written as an object. -/
theorem not_writtenAs_of_inNumber {text : String}
    (h : ∃ first rest, text.toList = first :: rest ∧ Json.InNumber first)
    (members : List (List Json.Piece × Json.Tree)) :
    ¬ (Json.Tree.object members).WrittenAs (Bytes.ofText text) := by
  intro hwritten
  obtain ⟨first, rest, htext, hfirst⟩ := h
  obtain ⟨byte, hbyte, hblank, _, htaken⟩ := Json.byte_of_inNumber hfirst
  rw [Bytes.ofText, htext, List.flatMap_cons, hbyte, List.singleton_append] at hwritten
  obtain hother | rfl := begins_of_writtenAs hwritten
  · rw [hblank] at hother
    cases hother
  · cases htaken []

/-- A line of text is no document. -/
theorem Format.Holds.not_json {record : String} {emission other : Emission}
    (h : Format.text.Holds record emission) : ¬ Format.json.Holds record other := by
  cases h with
  | text hstamp hfields =>
      intro hjson
      cases hjson with
      | json hdocument =>
          obtain ⟨first, rest, hbegins, hfirst⟩ := hstamp.begins
          refine not_writtenAs_of_inNumber ⟨first, ?_⟩ _ hdocument
          simp only [String.toList_append, hbegins, List.cons_append]
          exact ⟨_, rfl, hfirst⟩

/-- A record is in one format only. -/
theorem Format.Holds.format_unique {format other : Format} {record : String}
    {emission different : Emission} (h : format.Holds record emission)
    (hother : other.Holds record different) : format = other := by
  cases format with
  | text =>
      cases other with
      | text => rfl
      | json => exact absurd hother h.not_json
  | json =>
      cases other with
      | text => exact absurd h hother.not_json
      | json => rfl

end CloudCredentials.Log
