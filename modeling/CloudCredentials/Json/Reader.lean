import CloudCredentials.Json.Tree
import CloudCredentials.Json.Value

/-!
# Reading JSON

`read` gives the value of a JSON text within the limits of this library: at most 127 arrays and
objects inside each other, numbers within the range of binary64, and strings that are text.
`Tree.record?` reads a document as a record, of which only the named members are evaluated.
-/

namespace CloudCredentials.Json

/-- Why a text could not be read. -/
inductive Fault where
  /-- The text is not a JSON document within the limits. -/
  | malformed
  /-- The document is not of the form that is asked for. -/
  | unsuitable
deriving DecidableEq, Repr

/-- The wording of a fault. -/
def Fault.message : Fault → String
  | .malformed => "the text is not a JSON document"
  | .unsuitable => "the document does not have the expected form"

/-- The greatest number of arrays and objects inside each other. -/
def greatestDepth : Nat := 127

/-- The code unit starts a surrogate pair. -/
def isHighSurrogate (code : Nat) : Bool := 0xD800 ≤ code && code < 0xDC00

/-- The code unit ends a surrogate pair. -/
def isLowSurrogate (code : Nat) : Bool := 0xDC00 ≤ code && code < 0xE000

/-- The bytes of a written string. A surrogate that is not part of a pair has none. -/
def pieceBytes : List Piece → Option Bytes
  | [] => some []
  | .byte value :: rest => (pieceBytes rest).map (value :: ·)
  | .unit high :: .unit low :: rest =>
      if isHighSurrogate high then
        if isLowSurrogate low then
          (pieceBytes rest).map
            (Bytes.ofChar (.ofNat (0x10000 + (high - 0xD800) * 0x400 + (low - 0xDC00))) ++ ·)
        else none
      else if isLowSurrogate high then none
      else (pieceBytes (.unit low :: rest)).map (Bytes.ofChar (.ofNat high) ++ ·)
  | .unit code :: rest =>
      if isHighSurrogate code || isLowSurrogate code then none
      else (pieceBytes rest).map (Bytes.ofChar (.ofNat code) ++ ·)

/-- The text that a written string denotes. -/
def pieceText (pieces : List Piece) : Option String :=
  (pieceBytes pieces).bind Bytes.text?

namespace Tree

mutual

/-- The value of a document with at most this many arrays and objects inside each other. -/
def value? (depth : Nat) : Tree → Option Value
  | .null => some .null
  | .boolean value => some (.boolean value)
  | .number numeral => numeral.number?.map .number
  | .string pieces => (pieceText pieces).map .string
  | .array items =>
      match depth with
      | 0 => none
      | depth + 1 => (values? depth items).map .array
  | .object members =>
      match depth with
      | 0 => none
      | depth + 1 => (members? depth [] members).map .object

/-- The values of the items of an array. -/
def values? (depth : Nat) : List Tree → Option (List Value)
  | [] => some []
  | item :: rest => do
      let value ← value? depth item
      return value :: (← values? depth rest)

/-- The members of an object, added one after the other to those before them. -/
def members? (depth : Nat) (before : Members) : List (List Piece × Tree) → Option Members
  | [] => some before
  | (name, tree) :: rest => do
      let name ← pieceText name
      let value ← value? depth tree
      members? depth (putMember name value before) rest

end

/-- The tree of each field of a record: for an object, the member with the field's name, and for an
array, the item in the field's place. There is no record if a field is given twice, if an array has
more items than there are fields, or if a name is not text. -/
def record? (fields : List String) : Tree → Option (List (Option Tree))
  | .object members => do
      let named ← members.mapM fun (name, tree) => (pieceText name).map (·, tree)
      fields.mapM fun field =>
        match named.filter (·.1 == field) with
        | [] => some none
        | [(_, tree)] => some (some tree)
        | _ => none
  | .array items =>
      if fields.length < items.length then none
      else some (items.map some ++ List.replicate (fields.length - items.length) none)
  | _ => none

/-- A field that holds a text or null, or is absent. -/
def optionalText? : Option Tree → Option (Option String)
  | none => some none
  | some .null => some none
  | some (.string pieces) => (pieceText pieces).map some
  | some _ => none

/-- A field that has to hold a text. -/
def requiredText? : Option Tree → Option String
  | some (.string pieces) => pieceText pieces
  | _ => none

end Tree

/-- The value of a JSON text. -/
def read (input : Bytes) : Except Fault Value :=
  match (Tree.read input).bind (Tree.value? greatestDepth) with
  | some value => .ok value
  | none => .error .malformed

/-- The value of a JSON text. -/
def readText (text : String) : Except Fault Value :=
  read (Bytes.ofText text)

/-- The fields of a text that holds a record. -/
def readRecord (fields : List String) (input : Bytes) : Except Fault (List (Option Tree)) :=
  match Tree.read input with
  | none => .error .malformed
  | some tree =>
      match tree.record? fields with
      | none => .error .unsuitable
      | some trees => .ok trees

end CloudCredentials.Json
