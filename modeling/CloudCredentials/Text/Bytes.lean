/-!
# Bytes

Byte sequences and their readings as UTF-8 text. `Bytes.text?` accepts valid UTF-8 only;
`Bytes.lossyText` puts U+FFFD in the place of each longest run of bytes that starts a character and
does not complete it. `text?_eq_some_iff` says that the bytes of a text are the only ones that read
back as that text, and `le_of_mem_ofChar` that no byte of a character outside of ASCII can be taken
for one of ASCII.
-/

namespace CloudCredentials

/-- A sequence of bytes, in memory, in a file or on the wire. -/
abbrev Bytes := List UInt8

namespace Bytes

/-- The bytes of a character in UTF-8. -/
def ofChar (character : Char) : Bytes :=
  String.utf8EncodeChar character

/-- The bytes of a text in UTF-8. -/
def ofText (text : String) : Bytes :=
  text.toList.flatMap ofChar

/-- The text whose UTF-8 form the bytes are, if there is one. -/
def text? (bytes : Bytes) : Option String :=
  String.fromUTF8? ⟨bytes.toArray⟩

/-- A character whose first byte has been read: how many bytes are missing after the next one, the
bits collected so far, and the range that the next byte has to lie in. -/
structure Unfinished where
  later : Nat
  bits : Nat
  low : UInt8
  high : UInt8

/-- The state after a byte that starts a character: the character, if the byte is all of it, a
character to be finished, or nothing, if no character starts with the byte. -/
def firstByte (byte : UInt8) : Option (Char ⊕ Unfinished) :=
  let code := byte.toNat
  if code < 0x80 then some (.inl (Char.ofNat code))
  else if code < 0xC2 then none
  else if code < 0xE0 then some (.inr ⟨0, code - 0xC0, 0x80, 0xBF⟩)
  else if code < 0xF0 then
    some (.inr ⟨1, code - 0xE0, if code = 0xE0 then 0xA0 else 0x80,
      if code = 0xED then 0x9F else 0xBF⟩)
  else if code < 0xF5 then
    some (.inr ⟨2, code - 0xF0, if code = 0xF0 then 0x90 else 0x80,
      if code = 0xF4 then 0x8F else 0xBF⟩)
  else none

/-- The character that stands for bytes that are not UTF-8. -/
def replacement : Char := '\uFFFD'

/-- Read bytes after the bytes of an unfinished character. A byte that does not continue the
character ends it as a replacement character and is read as a first byte. -/
def lossyChars : Option Unfinished → Bytes → List Char
  | none, [] => []
  | some _, [] => [replacement]
  | pending, byte :: rest =>
      let afresh :=
        match firstByte byte with
        | some (.inl character) => character :: lossyChars none rest
        | some (.inr unfinished) => lossyChars (some unfinished) rest
        | none => replacement :: lossyChars none rest
      match pending with
      | none => afresh
      | some ⟨later, bits, low, high⟩ =>
          if low ≤ byte && byte ≤ high then
            let bits := bits * 64 + (byte.toNat - 0x80)
            match later with
            | 0 => Char.ofNat bits :: lossyChars none rest
            | later + 1 => lossyChars (some ⟨later, bits, 0x80, 0xBF⟩) rest
          else replacement :: afresh

/-- The bytes read as UTF-8, with a replacement character for what is not. -/
def lossyText (bytes : Bytes) : String :=
  String.ofList (lossyChars none bytes)

/-- A property of the bytes of all numbers below 256 is one of all bytes. -/
theorem forall_of_forall_lt {property : UInt8 → Prop}
    (h : ∀ code < 256, property (UInt8.ofNat code)) (byte : UInt8) : property byte := by
  have hbyte := h byte.toNat byte.toNat_lt
  rwa [UInt8.ofNat_toNat] at hbyte

/-- A character of ASCII is one byte, its number. -/
theorem ofChar_of_ascii {character : Char} (h : character.toNat < 0x80) :
    ofChar character = [UInt8.ofNat character.toNat] :=
  if_pos (Nat.le_of_lt_succ h)

/-- The character of ASCII with a number has that number. -/
theorem toNat_ofNat_of_ascii : ∀ code < 0x80, (Char.ofNat code).toNat = code := by
  decide

/-- The byte that holds the low bits of a number above a mark. -/
theorem toNat_marked (value : Nat) {range mark : Nat} (hrange : 0 < range)
    (hfits : range + mark ≤ 256) :
    (UInt8.ofNat (value % range + mark)).toNat = value % range + mark := by
  have hlow := Nat.mod_lt value hrange
  exact UInt8.toNat_ofNat_of_lt' (by show _ < 256; omega)

/-- A byte with its highest bit set is none of ASCII. -/
theorem le_toNat_marked (value : Nat) {range mark : Nat} (hrange : 0 < range) (hmark : 0x80 ≤ mark)
    (hfits : range + mark ≤ 256) : 0x80 ≤ (UInt8.ofNat (value % range + mark)).toNat := by
  rw [toNat_marked value hrange hfits]
  omega

/-- Every byte of a character that is not one of ASCII is none of ASCII. -/
theorem le_of_mem_ofChar {character : Char} (h : 0x80 ≤ character.toNat) {byte : UInt8}
    (hbyte : byte ∈ ofChar character) : 0x80 ≤ byte.toNat := by
  have hval : ¬ character.val.toNat ≤ 0x7f := Nat.not_le_of_lt h
  rw [ofChar, String.utf8EncodeChar] at hbyte
  simp only [hval, if_false] at hbyte
  split at hbyte
  · simp only [List.mem_cons, List.not_mem_nil, or_false] at hbyte
    rcases hbyte with rfl | rfl <;> exact le_toNat_marked _ (by decide) (by decide) (by decide)
  · split at hbyte
    · simp only [List.mem_cons, List.not_mem_nil, or_false] at hbyte
      rcases hbyte with rfl | rfl | rfl <;>
        exact le_toNat_marked _ (by decide) (by decide) (by decide)
    · simp only [List.mem_cons, List.not_mem_nil, or_false] at hbyte
      rcases hbyte with rfl | rfl | rfl | rfl <;>
        exact le_toNat_marked _ (by decide) (by decide) (by decide)

/-- The bytes of a text are the bytes that the text is stored as. -/
theorem ofText_eq_toByteArray (text : String) : ofText text = text.toByteArray.data.toList := by
  rw [← String.utf8Encode_toList, List.utf8Encode, List.toList_data_toByteArray]
  rfl

/-- The bytes of a text read back as that text. -/
@[simp] theorem text?_ofText (text : String) : text? (ofText text) = some text := by
  rw [text?, ofText_eq_toByteArray, Array.toArray_toList]
  simp only [String.fromUTF8?, text.isValidUTF8, dite_true]
  rfl

/-- Bytes are the UTF-8 form of a text exactly if they are the bytes of that text. -/
theorem text?_eq_some_iff (bytes : Bytes) (text : String) :
    text? bytes = some text ↔ bytes = ofText text := by
  constructor
  · intro h
    rw [text?, String.fromUTF8?] at h
    split at h
    · next hvalid =>
        have hbytes : text.toByteArray = ⟨bytes.toArray⟩ := by
          rw [← Option.some.inj h]
          rfl
        rw [ofText_eq_toByteArray, hbytes]
    · cases h
  · rintro rfl
    exact text?_ofText text

end Bytes

end CloudCredentials
