import CloudCredentials.Encoding.Base64
import CloudCredentials.Url.Host

/-!
# Addresses

Absolute addresses of the web, as browsers read and normalise them: the scheme and the host in
lower case, the default port left out, dot segments resolved, and characters that may not stand for
themselves percent-encoded. `Address.read` reads one and `Address.text` writes it.
-/

namespace CloudCredentials.Url

/-- An absolute address. -/
structure Address where
  scheme : String
  user : List Char
  password : List Char
  host : Option Host
  port : Option Nat
  path : List Char
  query : Option (List Char)
  fragment : Option (List Char)
deriving DecidableEq, Repr

/-- The default port of a special scheme. -/
def defaultPort : String → Option Nat
  | "http" | "ws" => some 80
  | "https" | "wss" => some 443
  | "ftp" => some 21
  | _ => none

/-- The schemes with a host that is a domain name, and with backslashes that count as slashes. -/
def isSpecial (scheme : String) : Bool :=
  scheme == "file" || (defaultPort scheme).isSome

/-- The text without control characters and spaces at its ends and without line breaks and
tabulators. -/
def cleaned (text : List Char) : List Char :=
  let isEdge (character : Char) : Bool := character.toNat ≤ 0x20
  let inner := ((text.dropWhile isEdge).reverse.dropWhile isEdge).reverse
  inner.filter fun character => character != '\t' && character != '\n' && character != '\r'

/-- The scheme of a text, in lower case, and what stands behind its colon. -/
def takeScheme (text : List Char) : Option (String × List Char) := do
  let isPart (character : Char) : Bool :=
    character.isAlphanum || character == '+' || character == '-' || character == '.'
  let scheme := text.takeWhile isPart
  match scheme, text.dropWhile isPart with
  | first :: _, ':' :: rest =>
      if first.isAlpha then some (String.ofList (scheme.map Char.toLower), rest) else none
  | _, _ => none

/-- The fragment, the query and what stands before them. -/
def takeTail (isSpecial : Bool) (text : List Char) :
    List Char × Option (List Char) × Option (List Char) :=
  let (text, fragment) :=
    match Text.breakAt? ['#'] text with
    | some (before, fragment) => (before, some (percentEncode inFragment fragment))
    | none => (text, none)
  let (text, query) :=
    match Text.breakAt? ['?'] text with
    | some (before, query) =>
        (before, some (percentEncode (if isSpecial then inSpecialQuery else inQuery) query))
    | none => (text, none)
  (text, query, fragment)

/-- What a segment of a path means. -/
def isHere (segment : List Char) : Bool :=
  [".", "%2e"].contains (String.ofList (segment.map Char.toLower))

/-- The segment leads to the segment above. -/
def isAbove (segment : List Char) : Bool :=
  ["..", ".%2e", "%2e.", "%2e%2e"].contains (String.ofList (segment.map Char.toLower))

/-- The segments of a path with dot segments resolved, after the segments in `done`, latest
first. -/
def resolveSegments (done : List (List Char)) : List (List Char) → List (List Char)
  | [] => done.reverse
  | segment :: rest =>
      let ending (kept : List (List Char)) := if rest.isEmpty then [] :: kept else kept
      if isAbove segment then resolveSegments (ending (done.drop 1)) rest
      else if isHere segment then resolveSegments (ending done) rest
      else resolveSegments (percentEncode inPath segment :: done) rest

/-- The path that is written behind its first slash. -/
def absolutePath (isSlash : Char → Bool) (text : List Char) : List Char :=
  '/' :: Text.join ['/'] (resolveSegments [] (Text.separate isSlash text))

/-- The user, the password and what stands behind them. -/
def takeUserinfo (authority : List Char) : List Char × List Char × List Char :=
  let backwards := authority.reverse
  if authority.contains '@' then
    let hostPart := (backwards.takeWhile (· != '@')).reverse
    let userinfo := (backwards.drop (hostPart.length + 1)).reverse
    let (user, password) := (Text.breakAt? [':'] userinfo).getD (userinfo, [])
    (percentEncode inUserinfo user, percentEncode inUserinfo password, hostPart)
  else ([], [], authority)

/-- The host and the port of an authority. The port is what stands behind the last colon outside of
brackets. -/
def takePort (hostPart : List Char) : Option (List Char × Option Nat) :=
  let backwards := hostPart.reverse
  let port := (backwards.takeWhile fun character => character != ':' && character != ']').reverse
  match backwards.drop port.length with
  | ':' :: host =>
      -- A host without brackets has one colon at most, so a second one belongs to the port.
      if host.head? != some ']' && host.contains ':' && !(host.contains '[') then none
      else if port.all Char.isDigit then
        let number := port.foldl (fun value digit => value * 10 + (digit.toNat - 48)) 0
        if 65535 < number then none
        else some (host.reverse, if port.isEmpty then none else some number)
      else none
  | _ => some (hostPart, none)

namespace Address

/-- The address with an authority. -/
def withAuthority (scheme : String) (text : List Char) (query fragment : Option (List Char)) :
    Option Address := do
  let special := isSpecial scheme
  let isSlash (character : Char) : Bool := character == '/' || (special && character == '\\')
  let authority := text.takeWhile fun character => !isSlash character
  let rest := text.drop authority.length
  let (user, password, hostPart) := takeUserinfo authority
  let (hostText, port) ← takePort hostPart
  let hasCredentials := authority.contains '@'
  if hostText.isEmpty && (special || hasCredentials || port.isSome) then none
  else
    let host ← if special then Host.special? hostText else Host.plain? hostText
    let port := if port == defaultPort scheme then none else port
    let path :=
      match rest with
      | [] => if special then ['/'] else []
      | _ :: rest => absolutePath isSlash rest
    return ⟨scheme, user, password, some host, port, path, query, fragment⟩

/-- The address of a local file. -/
def ofFile (text : List Char) (query fragment : Option (List Char)) : Option Address := do
  let isSlash (character : Char) : Bool := character == '/' || character == '\\'
  let (host, rest) ←
    match text with
    | first :: second :: rest =>
        if isSlash first && isSlash second then
          let hostText := rest.takeWhile fun character => !isSlash character
          let rest := rest.drop hostText.length
          if hostText.isEmpty then some (none, rest)
          else do
            let host ← Host.special? hostText
            some (if host == .name "localhost" then none else some host, rest)
        else some (none, first :: second :: rest)
    | text => some (none, text)
  let path :=
    match rest with
    | first :: after => if isSlash first then after else rest
    | [] => []
  return ⟨"file", [], [], host.getD (.name ""), none, absolutePath isSlash path, query, fragment⟩

/-- The absolute address that a text stands for. -/
def read (text : String) : Option Address := do
  let (scheme, rest) ← takeScheme (cleaned text.toList)
  let (rest, query, fragment) := takeTail (isSpecial scheme) rest
  if scheme = "file" then ofFile rest query fragment
  else if isSpecial scheme then
    withAuthority scheme (rest.dropWhile fun character => character == '/' || character == '\\')
      query fragment
  else
    match rest with
    | '/' :: '/' :: rest => withAuthority scheme rest query fragment
    | '/' :: rest =>
        some ⟨scheme, [], [], none, none, absolutePath (· == '/') rest, query, fragment⟩
    | path => some ⟨scheme, [], [], none, none, percentEncode isControl path, query, fragment⟩

/-- The address names a host. -/
def hasHost (address : Address) : Bool :=
  match address.host with
  | none => false
  | some (.name text) => text != ""
  | some _ => true

/-- The user and the password with the sign behind them. -/
def userinfoText (address : Address) : List Char :=
  if address.user.isEmpty && address.password.isEmpty then []
  else
    address.user ++ (if address.password.isEmpty then [] else ':' :: address.password) ++ ['@']

/-- The host and the port. -/
def hostAndPort (address : Address) : List Char :=
  (address.host.map Host.text).getD [] ++
    match address.port with
    | some port => ':' :: Nat.toDigits 10 port
    | none => []

/-- The query with its question mark. -/
def queryText (address : Address) : List Char :=
  match address.query with
  | some query => '?' :: query
  | none => []

/-- The address up to its query. -/
def chars (address : Address) : List Char :=
  address.scheme.toList ++ ':' ::
    (match address.host with
    | some _ => '/' :: '/' :: address.userinfoText ++ address.hostAndPort
    | none => if (Text.after? ['/', '/'] address.path).isSome then ['/', '.'] else []) ++
    address.path ++ address.queryText

/-- The text of an address. -/
def text (address : Address) : String :=
  String.ofList (address.chars ++
    match address.fragment with
    | some fragment => '#' :: fragment
    | none => [])

/-- The text of an address as a server sees it, without the fragment. -/
def requestText (address : Address) : String :=
  String.ofList address.chars

/-- The address with one more field in its query. -/
def withField (address : Address) (name value : String) : Address :=
  let field := formFields [(name, value)]
  let query :=
    match address.query with
    | none | some [] => field
    | some query => query ++ '&' :: field
  { address with query := some query }

/-- The user and the password that the address carries, decoded, if they are text. -/
def credentials? (address : Address) : Option (String × String) := do
  let decode (encoded : List Char) : Option String :=
    Bytes.text? (percentDecode (encoded.flatMap Bytes.ofChar))
  if address.user.isEmpty && address.password.isEmpty then none
  else
    let user ← decode address.user
    some (user, (decode address.password).getD "")

/-- The address without a user and a password. -/
def withoutCredentials (address : Address) : Address :=
  { address with user := [], password := [] }

/-- The characters that the host part of a request may have. -/
def isHostChar (character : Char) : Bool :=
  character.isAlphanum || "!$%&'()*+,-.:;=@[]_~".toList.contains character

/-- The greatest length of the address of a request. -/
def greatestLength : Nat := 65534

/-- A request can be sent to the address: its scheme is one of the two of the web, and it is no
longer and has no other characters than a request allows. -/
def isRequestable (address : Address) : Bool :=
  (address.scheme == "http" || address.scheme == "https") &&
    address.hostAndPort.all isHostChar && address.text.utf8ByteSize ≤ greatestLength

end Address

end CloudCredentials.Url
