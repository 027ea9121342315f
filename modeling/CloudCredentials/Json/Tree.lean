import CloudCredentials.Json.Token

/-!
# JSON documents as they are written

A tree is a JSON document with nothing evaluated: members in written order with their duplicates,
strings with their escapes, numbers with their digits. The reader takes one token at a time, with
the open arrays and objects on a stack, so that nesting costs it nothing.
-/

namespace CloudCredentials.Json

/-- A JSON document as it is written. -/
inductive Tree where
  | null
  | boolean (value : Bool)
  | number (numeral : Numeral)
  | string (pieces : List Piece)
  | array (items : List Tree)
  | object (members : List (List Piece × Tree))
deriving Repr

/-- An array or object that is not closed yet, with what it holds so far in reverse order. For an
object, also the name of the member whose value is being read. -/
inductive Frame where
  | items (done : List Tree)
  | members (done : List (List Piece × Tree)) (name : List Piece)

/-- What has to come next, inside the open arrays and objects. -/
inductive Expectation where
  /-- A value. -/
  | beforeValue (stack : List Frame)
  /-- The first item of an array, or its end. -/
  | afterOpenArray (stack : List Frame)
  /-- The first name of an object, or its end. -/
  | afterOpenObject (stack : List Frame)
  /-- A name, after a comma. -/
  | beforeName (stack : List Frame) (done : List (List Piece × Tree))
  /-- The colon after a name. -/
  | afterName (stack : List Frame) (done : List (List Piece × Tree)) (name : List Piece)
  /-- What may follow a value: a comma, the end of the innermost array or object, or, if there is
  none, the end of the text. -/
  | afterValue (stack : List Frame) (value : Tree)

namespace Expectation

/-- A token where a value has to come. -/
def takeValue (stack : List Frame) : Token → Option Expectation
  | .null => some (.afterValue stack .null)
  | .boolean value => some (.afterValue stack (.boolean value))
  | .number numeral => some (.afterValue stack (.number numeral))
  | .string pieces => some (.afterValue stack (.string pieces))
  | .openArray => some (.afterOpenArray stack)
  | .openObject => some (.afterOpenObject stack)
  | _ => none

/-- A token after a value. -/
def takeMore (value : Tree) : List Frame → Token → Option Expectation
  | .items done :: stack, .comma => some (.beforeValue (.items (value :: done) :: stack))
  | .items done :: stack, .closeArray => some (.afterValue stack (.array (value :: done).reverse))
  | .members done name :: stack, .comma => some (.beforeName stack ((name, value) :: done))
  | .members done name :: stack, .closeObject =>
      some (.afterValue stack (.object ((name, value) :: done).reverse))
  | _, _ => none

/-- What has to come after a token. -/
def next : Expectation → Token → Option Expectation
  | .beforeValue stack, token => takeValue stack token
  | .afterOpenArray stack, .closeArray => some (.afterValue stack (.array []))
  | .afterOpenArray stack, token => takeValue (.items [] :: stack) token
  | .afterOpenObject stack, .closeObject => some (.afterValue stack (.object []))
  | .afterOpenObject stack, .string name => some (.afterName stack [] name)
  | .afterOpenObject _, _ => none
  | .beforeName stack done, .string name => some (.afterName stack done name)
  | .beforeName _ _, _ => none
  | .afterName stack done name, .colon => some (.beforeValue (.members done name :: stack))
  | .afterName _ _ _, _ => none
  | .afterValue stack value, token => takeMore value stack token

/-- What has to come after tokens. -/
def run (expectation : Expectation) (tokens : List Token) : Option Expectation :=
  tokens.foldlM next expectation

end Expectation

/-- The document that a text is. There is none if the text is not exactly one JSON value with
blanks around and inside it. -/
def Tree.read (input : Bytes) : Option Tree := do
  match ← Expectation.run (.beforeValue []) (← tokens input) with
  | .afterValue [] value => some value
  | _ => none

end CloudCredentials.Json
