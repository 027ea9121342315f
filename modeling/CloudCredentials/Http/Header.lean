import CloudCredentials.Text.Bytes

/-!
# Headers

The headers of a request or response, in order. Names are in lower case, and a name may have
several values. `insert` leaves one value under a name and leaves the other names alone.
-/

namespace CloudCredentials.Http

/-- A header. The value of a sensitive one is not to be shown. -/
structure Header where
  name : String
  value : Bytes
  sensitive : Bool
deriving DecidableEq, Repr

/-- The headers of a message. -/
abbrev Headers := List Header

/-- The byte may stand in the value of a header. -/
def isValueByte (byte : UInt8) : Bool :=
  byte == 0x09 || (0x20 ≤ byte && byte != 0x7F)

/-- The bytes may be the value of a header. -/
def isValue (value : Bytes) : Bool :=
  value.all isValueByte

/-- A name as it is compared. -/
def headerName (name : String) : String :=
  String.ofList (name.toList.map Char.toLower)

namespace Headers

/-- The values under a name, in order. -/
def values (headers : Headers) (name : String) : List Bytes :=
  (headers.filter (·.name == name)).map Header.value

/-- The first value under a name. -/
def first? (headers : Headers) (name : String) : Option Bytes :=
  (values headers name).head?

/-- The headers with this header in the place of all that have its name. -/
def insert (headers : Headers) (header : Header) : Headers :=
  headers.filter (·.name != header.name) ++ [header]

/-- The headers by name. The values of a name stay in order. -/
def sorted (headers : Headers) : Headers :=
  headers.mergeSort fun left right => left.name ≤ right.name

/-- An inserted header is the only one under its name. -/
theorem values_insert_self (headers : Headers) (header : Header) :
    values (insert headers header) header.name = [header.value] := by
  simp [values, insert, List.filter_filter]

/-- Inserting a header leaves the other names alone. -/
theorem values_insert_of_ne (headers : Headers) (header : Header) (name : String)
    (h : name ≠ header.name) : values (insert headers header) name = values headers name := by
  have hself : (header.name == name) = false := beq_eq_false_iff_ne.mpr h.symm
  simp only [values, insert, List.filter_append, List.filter_filter, List.map_append]
  have hfilter : (headers.filter fun other => other.name == name && other.name != header.name) =
      headers.filter (·.name == name) := by
    apply List.filter_congr
    intro other _
    by_cases hname : other.name = name
    · simp [hname, h]
    · simp [hname]
  simp [hfilter, hself]

end Headers

end CloudCredentials.Http
