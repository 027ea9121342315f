import CloudCredentials.Text.Bytes

/-!
# DER

Two readings of DER. `blocks` walks a whole structure, forgives lengths that are longer written
than they need be, and keeps only what identifies a key. `integers?` reads a sequence of unsigned
integers and accepts one form of each only.
-/

namespace CloudCredentials.Encoding.Der

/-- A block of a structure. Blocks that play no part in identifying a key are not told apart. -/
inductive Block where
  | sequence (items : List Block)
  /-- A bit string or an octet string. -/
  | content (bytes : Bytes)
  | identifier (arcs : List Nat)
  | other

/-- A number in groups of seven bits, all but the last of them marked by the eighth bit. -/
def takeGroups (value : Nat) : Bytes → Option (Nat × Bytes)
  | [] => none
  | byte :: rest =>
      let value := value * 128 + byte.toNat % 128
      if byte < 0x80 then some (value, rest) else takeGroups value rest

/-- All numbers in groups of seven bits. -/
def groups (value : Nat) (unfinished : Bool) : Bytes → Option (List Nat)
  | [] => if unfinished then none else some []
  | byte :: rest =>
      let value := value * 128 + byte.toNat % 128
      if byte < 0x80 then (groups 0 false rest).map (value :: ·) else groups value true rest

/-- The arcs of an object identifier. The first byte holds two of them. -/
def arcs? : Bytes → Option (List Nat)
  | [] => none
  | byte :: rest =>
      let code := byte.toNat
      let first := if code < 40 then 0 else if code < 80 then 1 else 2
      (groups 0 false rest).map fun later => first :: (code - 40 * first) :: later

/-- The number that bytes denote, the first byte counting most. -/
def bigEndian (bytes : Bytes) : Nat :=
  bytes.foldl (fun value byte => value * 256 + byte.toNat) 0

/-- The first part of a list and the rest, if the list is long enough. -/
def takeExactly (count : Nat) (bytes : Bytes) : Option (Bytes × Bytes) :=
  if count ≤ bytes.length then some (bytes.take count, bytes.drop count) else none

/-- A length, in one byte or after a byte that counts its bytes. -/
def takeLength : Bytes → Option (Nat × Bytes)
  | [] => none
  | byte :: rest =>
      if byte < 0x80 then some (byte.toNat, rest)
      else if 8 < byte.toNat - 0x80 then none
      else (takeExactly (byte.toNat - 0x80) rest).map fun (length, rest) => (bigEndian length, rest)

/-- The head of a block: its tag number, whether it belongs to the universal class, its contents,
and the bytes after it. -/
structure Head where
  tag : Nat
  universal : Bool
  contents : Bytes
  rest : Bytes

/-- Read the head of a block. -/
def takeHead : Bytes → Option Head
  | [] => none
  | byte :: rest => do
      let low := byte.toNat % 32
      let (tag, rest) ← if low = 31 then takeGroups 0 rest else some (low, rest)
      let (length, rest) ← takeLength rest
      let (contents, rest) ← takeExactly length rest
      return ⟨tag, byte < 0x40, contents, rest⟩

/-- The two-digit numbers of a run of digits. -/
def pairs? : Bytes → Option (List Nat)
  | [] => some []
  | tens :: ones :: rest =>
      if 0x30 ≤ tens && tens ≤ 0x39 && 0x30 ≤ ones && ones ≤ 0x39 then
        (pairs? rest).map (((tens.toNat - 0x30) * 10 + (ones.toNat - 0x30)) :: ·)
      else none
  | _ => none

/-- The number of days of a month. -/
def monthLength (year month : Nat) : Nat :=
  if month = 2 then
    if year % 4 = 0 ∧ (year % 100 ≠ 0 ∨ year % 400 = 0) then 29 else 28
  else if month = 4 ∨ month = 6 ∨ month = 9 ∨ month = 11 then 30
  else 31

/-- The numbers are a date and a time of day. -/
def isMoment (year : Nat) : List Nat → Bool
  | [month, day, hour, minute, second] =>
      1 ≤ month && month ≤ 12 && 1 ≤ day && day ≤ monthLength year month &&
        hour < 24 && minute < 60 && second < 60
  | _ => false

/-- A moment with a year of two digits. Years from 50 on belong to the last century. -/
def isShortTime (contents : Bytes) : Bool :=
  contents.length == 13 && contents.getLast? == some 0x5A &&
    match pairs? contents.dropLast with
    | some (year :: rest) => isMoment (if 50 ≤ year then 1900 + year else 2000 + year) rest
    | _ => false

/-- A moment with a year of four digits, and up to nine digits for parts of a second. -/
def isLongTime (contents : Bytes) : Bool :=
  let digits := contents.dropLast
  contents.getLast? == some 0x5A &&
    (match pairs? (digits.take 14) with
    | some (century :: year :: rest) => isMoment (century * 100 + year) rest
    | _ => false) &&
    match digits.drop 14 with
    | [] => true
    | point :: parts =>
        point == 0x2E && parts.length ≤ 9 && parts.all fun byte => 0x30 ≤ byte && byte ≤ 0x39

/-- The byte may stand in a printable string. -/
def isPrintable (byte : UInt8) : Bool :=
  (0x41 ≤ byte && byte ≤ 0x5A) || (0x61 ≤ byte && byte ≤ 0x7A) || (0x30 ≤ byte && byte ≤ 0x39) ||
    " '()+,-./:=?".toList.any (·.toNat == byte.toNat)

/-- The block with a universal tag and these contents, apart from sequences and sets. -/
def simpleBlock (tag : Nat) (contents : Bytes) : Option Block :=
  let plain (valid : Bool) : Option Block := if valid then some .other else none
  match tag with
  | 1 => plain (contents.length == 1)
  | 3 =>
      match contents with
      | [] => some (.content [])
      | unused :: bits => if bits.length * 8 < unused.toNat then none else some (.content bits)
  | 4 => some (.content contents)
  | 6 => (arcs? contents).map .identifier
  | 12 | 20 => plain (Bytes.text? contents).isSome
  | 19 => plain (contents.all isPrintable)
  | 22 => plain (contents.all (· < 0x80))
  | 23 => plain (isShortTime contents)
  | 24 => plain (isLongTime contents)
  | _ => some .other

/-- The blocks of a structure of at most this many bytes. -/
def blocksWithin : Nat → Bytes → Option (List Block)
  | _, [] => some []
  | 0, _ :: _ => none
  | fuel + 1, bytes => do
      let head ← takeHead bytes
      let block ←
        if head.universal then
          if head.tag = 16 then (blocksWithin fuel head.contents).map .sequence
          else if head.tag = 17 then (blocksWithin fuel head.contents).map fun _ => .other
          else simpleBlock head.tag head.contents
        else some .other
      return block :: (← blocksWithin fuel head.rest)

/-- The blocks of a structure. -/
def blocks (bytes : Bytes) : Option (List Block) :=
  blocksWithin bytes.length bytes

mutual

/-- The first identifier with the property, in this block or inside it. -/
def Block.findIdentifier? (wanted : List Nat → Bool) : Block → Option (List Nat)
  | .identifier arcs => if wanted arcs then some arcs else none
  | .sequence items => findIdentifierIn? wanted items
  | _ => none

/-- The first identifier with the property in a list of blocks. -/
def findIdentifierIn? (wanted : List Nat → Bool) : List Block → Option (List Nat)
  | [] => none
  | block :: rest => (block.findIdentifier? wanted).or (findIdentifierIn? wanted rest)

end

mutual

/-- The first bit or octet string in this block. -/
def Block.findContent? : Block → Option Bytes
  | .content bytes => some bytes
  | .sequence items => findContentIn? items
  | _ => none

/-- The first bit or octet string in a list of blocks. -/
def findContentIn? : List Block → Option Bytes
  | [] => none
  | block :: rest => block.findContent?.or (findContentIn? rest)

end

/-- A length in its only strict form: in as few bytes as possible, and at most four after the
first. -/
def strictLength : Bytes → Option (Nat × Bytes)
  | [] => none
  | byte :: rest =>
      let count := byte.toNat - 0x80
      if byte < 0x80 then some (byte.toNat, rest)
      else if count = 0 ∨ 4 < count then none
      else do
        let (length, rest) ← takeExactly count rest
        let value := bigEndian length
        if value < 0x80 ∨ value < Nat.pow 256 (count - 1) then none else some (value, rest)

/-- The contents of a block with this tag, and the bytes after it. -/
def strictContents (tag : UInt8) : Bytes → Option (Bytes × Bytes)
  | [] => none
  | byte :: rest =>
      if byte == tag then do
        let (length, rest) ← strictLength rest
        takeExactly length rest
      else none

/-- The number that the contents of an integer denote, if it is not negative and has no byte too
many. -/
def unsigned? : Bytes → Option Nat
  | [] => none
  | first :: rest =>
      if 0x80 ≤ first then none
      else
        match rest with
        | second :: _ =>
            if first == 0 && second < 0x80 then none else some (bigEndian (first :: rest))
        | [] => some first.toNat

/-- The integers of a run of at most this many bytes. -/
def integersWithin : Nat → Bytes → Option (List Nat)
  | _, [] => some []
  | 0, _ :: _ => none
  | fuel + 1, bytes => do
      let (contents, rest) ← strictContents 0x02 bytes
      let value ← unsigned? contents
      return value :: (← integersWithin fuel rest)

/-- The integers of a sequence of unsigned integers and nothing else. -/
def integers? (bytes : Bytes) : Option (List Nat) := do
  let (contents, rest) ← strictContents 0x30 bytes
  if rest.isEmpty then integersWithin contents.length contents else none

end CloudCredentials.Encoding.Der
