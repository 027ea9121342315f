import CloudCredentials.Text.Bytes

/-!
# Base64

Three bytes become four characters of an alphabet of sixty-four. The standard form fills the last
group up with padding characters, and the form for addresses has two other characters and no
padding. Reading accepts what writing produces and nothing else.
-/

namespace CloudCredentials.Encoding

/-- A form of base64: its last two characters, and whether the last group is padded. -/
structure Base64 where
  sixtyTwo : Char
  sixtyThree : Char
  padded : Bool

namespace Base64

/-- The standard form. -/
def standard : Base64 := ⟨'+', '/', true⟩

/-- The form for addresses and file names. -/
def forAddresses : Base64 := ⟨'-', '_', false⟩

variable (form : Base64)

/-- The character for a number below sixty-four. -/
def character (value : Nat) : Char :=
  if value < 26 then Char.ofNat (65 + value)
  else if value < 52 then Char.ofNat (97 + (value - 26))
  else if value < 62 then Char.ofNat (48 + (value - 52))
  else if value = 62 then form.sixtyTwo
  else form.sixtyThree

/-- The number that a character stands for. -/
def value? (character : Char) : Option Nat :=
  let code := character.toNat
  if 65 ≤ code && code < 91 then some (code - 65)
  else if 97 ≤ code && code < 123 then some (code - 97 + 26)
  else if 48 ≤ code && code < 58 then some (code - 48 + 52)
  else if character == form.sixtyTwo then some 62
  else if character == form.sixtyThree then some 63
  else none

/-- The padding of a last group that lacks this many characters. -/
def padding (missing : Nat) : List Char :=
  if form.padded then List.replicate missing '=' else []

/-- The characters for bytes. -/
def encode : Bytes → List Char
  | [] => []
  | [first] =>
      let bits := first.toNat * 16
      [form.character (bits / 64), form.character (bits % 64)] ++ form.padding 2
  | [first, second] =>
      let bits := (first.toNat * 256 + second.toNat) * 4
      [form.character (bits / 4096), form.character (bits / 64 % 64), form.character (bits % 64)] ++
        form.padding 1
  | first :: second :: third :: rest =>
      let bits := (first.toNat * 256 + second.toNat) * 256 + third.toNat
      form.character (bits / 262144) :: form.character (bits / 4096 % 64) ::
        form.character (bits / 64 % 64) :: form.character (bits % 64) :: encode rest

/-- The bytes of a last group of two or three characters without its padding. The bits that no byte
takes have to be zero. -/
def decodeLast : List Char → Option Bytes
  | [] => some []
  | [first, second] => do
      let bits := (← form.value? first) * 64 + (← form.value? second)
      if bits % 16 = 0 then some [UInt8.ofNat (bits / 16)] else none
  | [first, second, third] => do
      let bits := ((← form.value? first) * 64 + (← form.value? second)) * 64 + (← form.value? third)
      if bits % 4 = 0 then some [UInt8.ofNat (bits / 1024), UInt8.ofNat (bits / 4)] else none
  | _ => none

/-- A last group without its padding. -/
def unpadded : List Char → List Char
  | [first, second, third, fourth] =>
      if form.padded && fourth == '=' then
        if third == '=' then [first, second] else [first, second, third]
      else [first, second, third, fourth]
  | group => group

/-- The bytes that characters stand for. -/
def decode : List Char → Option Bytes
  | first :: second :: third :: fourth :: rest =>
      if rest.isEmpty && form.padded && fourth == '=' then
        form.decodeLast (form.unpadded [first, second, third, fourth])
      else do
        let bits := (((← form.value? first) * 64 + (← form.value? second)) * 64 +
          (← form.value? third)) * 64 + (← form.value? fourth)
        return UInt8.ofNat (bits / 65536) :: UInt8.ofNat (bits / 256) :: UInt8.ofNat bits ::
          (← decode rest)
  | [] => some []
  | group => if form.padded then none else form.decodeLast group

end Base64

end CloudCredentials.Encoding
