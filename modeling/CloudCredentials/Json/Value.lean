import CloudCredentials.Json.Number

/-!
# JSON values and their text

A value holds the members of an object as a list of names and values. `putMember` keeps such a
list sorted by name and free of duplicates, the last value of a name being the one that stays.
`Value.write` writes a value compactly, with the members in the order of the list.
-/

namespace CloudCredentials.Json

/-- A JSON value. -/
inductive Value where
  | null
  | boolean (value : Bool)
  | number (value : Number)
  | string (value : String)
  | array (items : List Value)
  | object (members : List (String × Value))
deriving Repr, BEq

/-- The members of an object. -/
abbrev Members := List (String × Value)

/-- `putMember name value members` is the members with `value` under `name`, in the place that the
order of names gives it. -/
def putMember (name : String) (value : Value) : Members → Members
  | [] => [(name, value)]
  | (other, present) :: rest =>
      if name = other then (name, value) :: rest
      else if name < other then (name, value) :: (other, present) :: rest
      else (other, present) :: putMember name value rest

/-- The value under a name. -/
def member? (name : String) (members : Members) : Option Value :=
  members.lookup name

/-- The string that the value is. -/
def Value.string? : Value → Option String
  | .string value => some value
  | _ => none

/-- A digit of a hexadecimal escape. -/
def hexDigit (value : Nat) : Char :=
  Nat.digitChar (value % 16)

/-- A character of a written string. The quote, the backslash and the control characters are
escaped. -/
def writeChar (character : Char) : List Char :=
  if character = '"' then ['\\', '"']
  else if character = '\\' then ['\\', '\\']
  else if character = '\n' then ['\\', 'n']
  else if character = '\r' then ['\\', 'r']
  else if character = '\t' then ['\\', 't']
  else if character.toNat = 8 then ['\\', 'b']
  else if character.toNat = 12 then ['\\', 'f']
  else if character.toNat < 32 then
    ['\\', 'u', '0', '0', hexDigit (character.toNat / 16), hexDigit character.toNat]
  else [character]

/-- A string between quotes. -/
def writeString (text : String) : List Char :=
  '"' :: text.toList.flatMap writeChar ++ ['"']

mutual

/-- The compact text of a value. -/
def Value.write : Value → List Char
  | .null => "null".toList
  | .boolean true => "true".toList
  | .boolean false => "false".toList
  | .number value => value.write
  | .string value => writeString value
  | .array items => '[' :: writeItems items ++ [']']
  | .object members => '\x7b' :: writeMembers members ++ ['\x7d']

/-- The items of an array, with commas between them. -/
def writeItems : List Value → List Char
  | [] => []
  | [item] => item.write
  | item :: rest => item.write ++ ',' :: writeItems rest

/-- The members of an object, with commas between them. -/
def writeMembers : List (String × Value) → List Char
  | [] => []
  | [(name, value)] => writeString name ++ ':' :: value.write
  | (name, value) :: rest => writeString name ++ ':' :: value.write ++ ',' :: writeMembers rest

end

/-- The compact text of a value. -/
def Value.text (value : Value) : String :=
  String.ofList value.write

/-- A member that has been put is found. -/
theorem member?_putMember_self (name : String) (value : Value) (members : Members) :
    member? name (putMember name value members) = some value := by
  induction members with
  | nil => simp [putMember, member?]
  | cons entry rest ih =>
      obtain ⟨other, present⟩ := entry
      rw [putMember]
      split
      · simp [member?]
      · split
        · simp [member?]
        · next hne _ => simpa [member?, List.lookup_cons, beq_eq_false_iff_ne.mpr hne] using ih

/-- Putting a member leaves the others alone. -/
theorem member?_putMember_of_ne (name wanted : String) (value : Value) (members : Members)
    (h : wanted ≠ name) :
    member? wanted (putMember name value members) = member? wanted members := by
  induction members with
  | nil => simp [putMember, member?, h]
  | cons entry rest ih =>
      obtain ⟨other, present⟩ := entry
      have hfalse : (wanted == name) = false := by simpa using h
      rw [putMember]
      split
      · next heq => subst heq; simp [member?, List.lookup_cons, hfalse]
      · split
        · simp [member?, List.lookup_cons, hfalse]
        · simp only [member?, List.lookup_cons] at ih ⊢
          split
          · rfl
          · exact ih

end CloudCredentials.Json
