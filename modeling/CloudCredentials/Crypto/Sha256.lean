import CloudCredentials.Text.Bytes

/-!
# SHA-256

The hash of a byte sequence: the padded message is cut into blocks of sixteen words, and each block
changes the eight words of the state in sixty-four rounds.
-/

namespace CloudCredentials.Crypto.Sha256

/-- Rotate a word to the right. -/
def rotate (word amount : UInt32) : UInt32 :=
  (word >>> amount) ||| (word <<< (32 - amount))

/-- The constants of the rounds. -/
def roundConstants : List UInt32 := [
  0x428a2f98, 0x71374491, 0xb5c0fbcf, 0xe9b5dba5, 0x3956c25b, 0x59f111f1, 0x923f82a4, 0xab1c5ed5,
  0xd807aa98, 0x12835b01, 0x243185be, 0x550c7dc3, 0x72be5d74, 0x80deb1fe, 0x9bdc06a7, 0xc19bf174,
  0xe49b69c1, 0xefbe4786, 0x0fc19dc6, 0x240ca1cc, 0x2de92c6f, 0x4a7484aa, 0x5cb0a9dc, 0x76f988da,
  0x983e5152, 0xa831c66d, 0xb00327c8, 0xbf597fc7, 0xc6e00bf3, 0xd5a79147, 0x06ca6351, 0x14292967,
  0x27b70a85, 0x2e1b2138, 0x4d2c6dfc, 0x53380d13, 0x650a7354, 0x766a0abb, 0x81c2c92e, 0x92722c85,
  0xa2bfe8a1, 0xa81a664b, 0xc24b8b70, 0xc76c51a3, 0xd192e819, 0xd6990624, 0xf40e3585, 0x106aa070,
  0x19a4c116, 0x1e376c08, 0x2748774c, 0x34b0bcb5, 0x391c0cb3, 0x4ed8aa4a, 0x5b9cca4f, 0x682e6ff3,
  0x748f82ee, 0x78a5636f, 0x84c87814, 0x8cc70208, 0x90befffa, 0xa4506ceb, 0xbef9a3f7, 0xc67178f2]

/-- The eight words of the state. -/
structure State where
  a : UInt32
  b : UInt32
  c : UInt32
  d : UInt32
  e : UInt32
  f : UInt32
  g : UInt32
  h : UInt32

namespace State

/-- The state before the first block. -/
def initial : State :=
  ⟨0x6a09e667, 0xbb67ae85, 0x3c6ef372, 0xa54ff53a, 0x510e527f, 0x9b05688c, 0x1f83d9ab, 0x5be0cd19⟩

/-- One round with its constant and its word of the schedule. -/
def round (state : State) (input : UInt32 × UInt32) : State :=
  let ⟨a, b, c, d, e, f, g, h⟩ := state
  let mixE := rotate e 6 ^^^ rotate e 11 ^^^ rotate e 25
  let choice := (e &&& f) ^^^ (~~~e &&& g)
  let first := h + mixE + choice + input.1 + input.2
  let mixA := rotate a 2 ^^^ rotate a 13 ^^^ rotate a 22
  let majority := (a &&& b) ^^^ (a &&& c) ^^^ (b &&& c)
  ⟨first + mixA + majority, a, b, c, d + first, e, f, g⟩

/-- Word by word addition. -/
def add (left right : State) : State :=
  ⟨left.a + right.a, left.b + right.b, left.c + right.c, left.d + right.d,
    left.e + right.e, left.f + right.f, left.g + right.g, left.h + right.h⟩

/-- The words in order. -/
def words (state : State) : List UInt32 :=
  [state.a, state.b, state.c, state.d, state.e, state.f, state.g, state.h]

end State

/-- The last sixteen words of the schedule, latest first, are followed by this word. -/
def nextWord (latest : List UInt32) : UInt32 :=
  let word (index : Nat) : UInt32 := latest.getD index 0
  let near := word 1
  let far := word 14
  let mixNear := rotate near 17 ^^^ rotate near 19 ^^^ (near >>> 10)
  let mixFar := rotate far 7 ^^^ rotate far 18 ^^^ (far >>> 3)
  mixNear + word 6 + mixFar + word 15

/-- The schedule of a block with `count` words more than the block has, latest word first. -/
def extend (latest : List UInt32) : Nat → List UInt32
  | 0 => latest
  | count + 1 => extend (nextWord latest :: latest) count

/-- The schedule of a block. -/
def schedule (block : List UInt32) : List UInt32 :=
  (extend block.reverse 48).reverse

/-- The state after a block. -/
def takeBlock (state : State) (block : List UInt32) : State :=
  state.add ((roundConstants.zip (schedule block)).foldl State.round state)

/-- A number as a given count of bytes, the first byte counting most. -/
def bigEndianBytes (count value : Nat) : Bytes :=
  (List.range count).reverse.map fun index => UInt8.ofNat (value / Nat.pow 256 index % 256)

/-- The bytes that follow a message of this length: a one bit, zeros, and the length in bits. -/
def padding (length : Nat) : Bytes :=
  0x80 :: List.replicate ((119 - length % 64) % 64) 0 ++ bigEndianBytes 8 (length * 8)

/-- The words of a byte sequence. -/
def toWords : Bytes → List UInt32
  | first :: second :: third :: fourth :: rest =>
      UInt32.ofNat (((first.toNat * 256 + second.toNat) * 256 + third.toNat) * 256 + fourth.toNat) ::
        toWords rest
  | _ => []

/-- Take so many blocks of sixteen words. -/
def takeBlocks (state : State) (words : List UInt32) : Nat → State
  | 0 => state
  | count + 1 => takeBlocks (takeBlock state (words.take 16)) (words.drop 16) count

/-- The hash of a message. -/
def hash (message : Bytes) : Bytes :=
  let padded := message ++ padding message.length
  let final := takeBlocks State.initial (toWords padded) (padded.length / 64)
  final.words.flatMap fun word => bigEndianBytes 4 word.toNat

/-- Every hash has thirty-two bytes. -/
theorem length_hash (message : Bytes) : (hash message).length = 32 := by
  rw [hash]
  simp [State.words, bigEndianBytes]

end CloudCredentials.Crypto.Sha256
