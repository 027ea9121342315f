import CloudCredentials.Encoding.Base64

/-!
# Base64 reads back

A form of base64 whose characters can be told from each other and from the padding reads back what
it writes, bytes of every number, padded or not: `decode_encode`. The form for addresses is of this
kind.
-/

namespace CloudCredentials.Encoding.Base64

variable {form : Base64}

/-- Every character of the form stands for one number, and none is the padding. -/
structure Faithful (form : Base64) : Prop where
  value?_character : ∀ value < 64, form.value? (form.character value) = some value
  character_ne : ∀ value < 64, form.character value ≠ '='

/-- The form for addresses is faithful. -/
theorem forAddresses_faithful : forAddresses.Faithful :=
  ⟨by decide, by decide⟩

/-- A number that leaves the number of a byte modulo 256 is cut down to that byte. -/
theorem ofNat_eq_of_mod {value : Nat} {byte : UInt8} (h : value % 256 = byte.toNat) :
    UInt8.ofNat value = byte := by
  apply UInt8.toNat_inj.1
  rw [UInt8.toNat_ofNat']
  exact h

/-- One byte reads back from two characters. -/
theorem decodeLast_one (h : form.Faithful) (first : UInt8) :
    form.decodeLast [form.character (first.toNat * 16 / 64),
      form.character (first.toNat * 16 % 64)] = some [first] := by
  have hfirst := first.toNat_lt
  have hbits : first.toNat * 16 / 64 * 64 + first.toNat * 16 % 64 = first.toNat * 16 := by omega
  have hbyte : UInt8.ofNat (first.toNat * 16 / 16) = first := ofNat_eq_of_mod (by omega)
  rw [decodeLast, h.value?_character _ (by omega), h.value?_character _ (by omega)]
  simp only [Option.bind_eq_bind, Option.bind_some, hbits, hbyte]
  rw [if_pos (by omega)]

/-- Two bytes read back from three characters. -/
theorem decodeLast_two (h : form.Faithful) (first second : UInt8) {bits : Nat}
    (hbits : bits = (first.toNat * 256 + second.toNat) * 4) :
    form.decodeLast [form.character (bits / 4096), form.character (bits / 64 % 64),
      form.character (bits % 64)] = some [first, second] := by
  have hfirst := first.toNat_lt
  have hsecond := second.toNat_lt
  have hjoin : (bits / 4096 * 64 + bits / 64 % 64) * 64 + bits % 64 = bits := by omega
  have hhigh : UInt8.ofNat (bits / 1024) = first := ofNat_eq_of_mod (by omega)
  have hlow : UInt8.ofNat (bits / 4) = second := ofNat_eq_of_mod (by omega)
  rw [decodeLast, h.value?_character _ (by omega), h.value?_character _ (by omega),
    h.value?_character _ (by omega)]
  simp only [Option.bind_eq_bind, Option.bind_some, hjoin, hhigh, hlow]
  rw [if_pos (by omega)]

/-- Three bytes read back from four characters, whatever follows. -/
theorem decode_group (h : form.Faithful) (first second third : UInt8) (rest : List Char)
    {bits : Nat} (hbits : bits = (first.toNat * 256 + second.toNat) * 256 + third.toNat) :
    form.decode (form.character (bits / 262144) :: form.character (bits / 4096 % 64) ::
        form.character (bits / 64 % 64) :: form.character (bits % 64) :: rest) =
      (form.decode rest).map (first :: second :: third :: ·) := by
  have hfirst := first.toNat_lt
  have hsecond := second.toNat_lt
  have hthird := third.toNat_lt
  have hjoin : ((bits / 262144 * 64 + bits / 4096 % 64) * 64 + bits / 64 % 64) * 64 + bits % 64 =
      bits := by omega
  have hhigh : UInt8.ofNat (bits / 65536) = first := ofNat_eq_of_mod (by omega)
  have hmiddle : UInt8.ofNat (bits / 256) = second := ofNat_eq_of_mod (by omega)
  have hlow : UInt8.ofNat bits = third := ofNat_eq_of_mod (by omega)
  have hwhole : (form.character (bits % 64) == '=') = false :=
    beq_eq_false_iff_ne.2 (h.character_ne _ (by omega))
  -- The fourth character is no padding, so the group is not taken for the last one.
  rw [decode, hwhole, Bool.and_false, if_neg Bool.false_ne_true,
    h.value?_character _ (by omega), h.value?_character _ (by omega),
    h.value?_character _ (by omega), h.value?_character _ (by omega)]
  simp only [Option.bind_eq_bind, Option.bind_some, hjoin, hhigh, hmiddle, hlow]
  cases form.decode rest <;> rfl

/-- A faithful form reads back what it writes. -/
theorem decode_encode (h : form.Faithful) (bytes : Bytes) :
    form.decode (form.encode bytes) = some bytes := by
  -- The cases are those of the writer: nothing, the groups of one and of two bytes that end the
  -- text, with their padding or without, and a whole group before more.
  induction bytes using encode.induct with
  | case1 => rfl
  | case2 first =>
      rw [encode, padding]
      cases hpadded : form.padded with
      | false =>
          rw [if_neg Bool.false_ne_true, List.append_nil, decode, hpadded]
          · exact decodeLast_one h first
          · simp
          · simp
      | true =>
          simp only [if_true, List.cons_append, List.nil_append, List.replicate]
          rw [decode, hpadded, unpadded, hpadded]
          exact decodeLast_one h first
  | case3 first second =>
      rw [encode, padding]
      cases hpadded : form.padded with
      | false =>
          rw [if_neg Bool.false_ne_true, List.append_nil, decode, hpadded]
          · exact decodeLast_two h first second rfl
          · simp
          · simp
      | true =>
          have hthird : (form.character ((first.toNat * 256 + second.toNat) * 4 % 64) == '=') =
              false := beq_eq_false_iff_ne.2 (h.character_ne _ (by omega))
          simp only [if_true, List.cons_append, List.nil_append, List.replicate]
          rw [decode, hpadded, unpadded, hpadded, hthird]
          exact decodeLast_two h first second rfl
  | case4 first second third rest ih =>
      rw [encode, decode_group h first second third _ rfl, ih]
      rfl

/-- A form without padding writes characters for numbers below sixty-four only. -/
theorem mem_encode (h : form.padded = false) {bytes : Bytes} {letter : Char}
    (hletter : letter ∈ form.encode bytes) : ∃ value < 64, letter = form.character value := by
  induction bytes using encode.induct with
  | case1 => cases hletter
  | case2 first =>
      have hfirst := first.toNat_lt
      simp only [encode, padding, h, Bool.false_eq_true, if_false, List.append_nil, List.mem_cons,
        List.not_mem_nil, or_false] at hletter
      rcases hletter with rfl | rfl
      · exact ⟨_, by omega, rfl⟩
      · exact ⟨_, by omega, rfl⟩
  | case3 first second =>
      have hfirst := first.toNat_lt
      have hsecond := second.toNat_lt
      simp only [encode, padding, h, Bool.false_eq_true, if_false, List.append_nil, List.mem_cons,
        List.not_mem_nil, or_false] at hletter
      rcases hletter with rfl | rfl | rfl
      · exact ⟨_, by omega, rfl⟩
      · exact ⟨_, by omega, rfl⟩
      · exact ⟨_, by omega, rfl⟩
  | case4 first second third rest ih =>
      have hfirst := first.toNat_lt
      have hsecond := second.toNat_lt
      have hthird := third.toNat_lt
      simp only [encode, List.mem_cons] at hletter
      rcases hletter with rfl | rfl | rfl | rfl | hrest
      · exact ⟨_, by omega, rfl⟩
      · exact ⟨_, by omega, rfl⟩
      · exact ⟨_, by omega, rfl⟩
      · exact ⟨_, by omega, rfl⟩
      · exact ih hrest

/-- The character may stand in the form for addresses: it is a letter, a digit, a hyphen or an
underscore. -/
def isAddressLetter (character : Char) : Bool :=
  character.isAlphanum || character == '-' || character == '_'

/-- The form for addresses writes letters, digits, hyphens and underscores only. -/
theorem isAddressLetter_of_mem_encode {bytes : Bytes} {letter : Char}
    (h : letter ∈ forAddresses.encode bytes) : isAddressLetter letter = true := by
  obtain ⟨value, hvalue, rfl⟩ := mem_encode rfl h
  exact (by decide : ∀ value < 64, isAddressLetter (forAddresses.character value) = true)
    value hvalue

end CloudCredentials.Encoding.Base64
