import CloudCredentials.Url.Percent

/-!
# Forms read back

`formPairs` reads a form in the way of the web: fields at the ampersands, each cut at its first
equals sign, plus signs for spaces, and escapes for bytes. `formDecode_formEncode` says that a text
that is written for a form reads back, and `formPairs_formFields` that all fields of a form do,
whatever stands in them.
-/

namespace CloudCredentials.Url

/-- The fields of a form, each with its name and its value. A field without an equals sign has an
empty value. -/
def formPairs (form : List Char) : List (Bytes × Bytes) :=
  ((Text.separate (· == '&') form).filter (· ≠ [])).map fun field =>
    match Text.breakAt? ['='] field with
    | some (name, value) => (formDecode name, formDecode value)
    | none => (formDecode field, [])

/-- A byte other than the percent sign stands for itself. -/
theorem percentDecode_cons_of_ne {byte : UInt8} (h : byte ≠ 0x25) (rest : Bytes) :
    percentDecode (byte :: rest) = byte :: percentDecode rest := by
  have hbyte : (byte == 0x25) = false := beq_eq_false_iff_ne.2 h
  match rest with
  | [] => rfl
  | [_] => rfl
  | high :: low :: rest => rw [percentDecode, hbyte, if_neg Bool.false_ne_true]

/-- The hexadecimal digit of a number below sixteen. -/
def escapeDigit (value : Nat) : Char :=
  Char.ofNat (if value < 10 then 48 + value else 55 + value)

/-- A hexadecimal digit is a character of ASCII with the value that it was made from, and no plus
sign. -/
theorem escapeDigit_reads : ∀ value < 16, ∃ byte, Bytes.ofChar (escapeDigit value) = [byte] ∧
    hexValue? byte = some value ∧ escapeDigit value ≠ '+' := by
  intro value hvalue
  have hall : ∀ value < 16, (escapeDigit value).toNat < 0x80 ∧
      hexValue? (UInt8.ofNat (escapeDigit value).toNat) = some value ∧
        escapeDigit value ≠ '+' := by decide
  obtain ⟨hascii, hvalue, hplus⟩ := hall value hvalue
  exact ⟨_, Bytes.ofChar_of_ascii hascii, hvalue, hplus⟩

/-- The bytes of a form with its plus signs turned into spaces. -/
def formBytes (form : List Char) : Bytes :=
  (form.map fun character => if character = '+' then ' ' else character).flatMap Bytes.ofChar

/-- What a form holds is read piece by piece. -/
theorem formBytes_append (form rest : List Char) :
    formBytes (form ++ rest) = formBytes form ++ formBytes rest := by
  simp [formBytes]

/-- An escaped byte reads back, whatever follows. -/
theorem percentDecode_percentByte (byte : UInt8) (rest : Bytes) :
    percentDecode (formBytes (percentByte byte) ++ rest) = byte :: percentDecode rest := by
  have hbyte := byte.toNat_lt
  have hwritten : percentByte byte =
      ['%', escapeDigit (byte.toNat / 16), escapeDigit (byte.toNat % 16)] := rfl
  obtain ⟨high, hhigh, hhighValue, hhighPlus⟩ := escapeDigit_reads (byte.toNat / 16) (by omega)
  obtain ⟨low, hlow, hlowValue, hlowPlus⟩ := escapeDigit_reads (byte.toNat % 16) (by omega)
  have hbytes : formBytes (percentByte byte) = [0x25, high, low] := by
    rw [hwritten, formBytes]
    simp [hhighPlus, hlowPlus, hhigh, hlow]
    rfl
  have hescape : encodedByte? high low = some byte := by
    have hsum : byte.toNat / 16 * 16 + byte.toNat % 16 = byte.toNat := by omega
    simp only [encodedByte?, hhighValue, hlowValue, Option.pure_def, Option.bind_eq_bind,
      Option.bind_some, hsum, UInt8.ofNat_toNat]
  rw [hbytes]
  simp [percentDecode, hescape]

/-- A byte that stands for itself in a form is one of ASCII, and neither a plus nor a percent
sign. -/
theorem isPlainInForm_bounds {byte : UInt8} (h : isPlainInForm byte = true) :
    byte.toNat < 0x80 ∧ byte.toNat ≠ 0x2B ∧ byte.toNat ≠ 0x25 := by
  simp only [isPlainInForm, Bool.or_eq_true, Bool.and_eq_true, decide_eq_true_eq, beq_iff_eq] at h
  omega

/-- A byte of a form reads back, whatever follows. -/
theorem percentDecode_formByte (byte : UInt8) (rest : Bytes) :
    percentDecode (formBytes (formByte byte) ++ rest) = byte :: percentDecode rest := by
  rw [formByte]
  split
  · next hspace =>
      rw [beq_iff_eq] at hspace
      subst hspace
      exact percentDecode_cons_of_ne (by decide) rest
  · split
    · next hplain =>
        obtain ⟨hascii, hplus, hpercent⟩ := isPlainInForm_bounds hplain
        have hcode := Bytes.toNat_ofNat_of_ascii byte.toNat hascii
        have hcharacter : Char.ofNat byte.toNat ≠ '+' := fun heq =>
          hplus (hcode.symm.trans (congrArg Char.toNat heq))
        have hbyte : byte ≠ 0x25 := fun heq => hpercent (congrArg UInt8.toNat heq)
        have hbytes : formBytes [Char.ofNat byte.toNat] = [byte] := by
          have hone := Bytes.ofChar_of_ascii (hcode.symm ▸ hascii)
          rw [hcode, UInt8.ofNat_toNat] at hone
          simp [formBytes, hcharacter, hone]
        rw [hbytes]
        exact percentDecode_cons_of_ne hbyte rest
    · exact percentDecode_percentByte byte rest

/-- Bytes that are written for a form read back. -/
theorem percentDecode_formBytes (bytes : Bytes) :
    percentDecode (formBytes (bytes.flatMap formByte)) = bytes := by
  induction bytes with
  | nil => rfl
  | cons byte bytes ih =>
      rw [List.flatMap_cons, formBytes_append, percentDecode_formByte, ih]

/-- A text that is written for a form reads back. -/
theorem formDecode_formEncode (text : String) : formDecode (formEncode text) = Bytes.ofText text :=
  percentDecode_formBytes (Bytes.ofText text)

/-- The character may stand in a text that is written for a form. -/
def isFormChar (character : Char) : Bool :=
  character.isAlphanum || "+%*-._".toList.contains character

/-- Bytes are written for a form with letters, digits and a few marks. -/
theorem isFormChar_of_mem_formByte {byte : UInt8} {character : Char}
    (h : character ∈ formByte byte) : isFormChar character = true := by
  have hall : ∀ byte, (formByte byte).all isFormChar = true := by
    apply Bytes.forall_of_forall_lt
    decide +kernel
  exact List.all_eq_true.1 (hall byte) character h

/-- A text is written for a form with letters, digits and a few marks. -/
theorem isFormChar_of_mem_formEncode {text : String} {character : Char}
    (h : character ∈ formEncode text) : isFormChar character = true := by
  obtain ⟨byte, _, hbyte⟩ := List.mem_flatMap.1 h
  exact isFormChar_of_mem_formByte hbyte

/-- A character that may not stand in a text written for a form does not. -/
theorem not_mem_formEncode {character : Char} (h : isFormChar character = false) (text : String) :
    character ∉ formEncode text := by
  intro hmem
  rw [isFormChar_of_mem_formEncode hmem] at h
  cases h

/-- A field of a form: the name, the equals sign and the value. -/
def formField (field : String × String) : List Char :=
  formEncode field.1 ++ '=' :: formEncode field.2

/-- A field of a form is cut at the equals sign between name and value. -/
theorem breakAt?_formField (field : String × String) :
    Text.breakAt? ['='] (formField field) = some (formEncode field.1, formEncode field.2) :=
  Text.breakAt?_append (not_mem_formEncode (by decide) field.1) _

/-- No field of a form holds an ampersand. -/
theorem not_mem_formField (field : String × String) : '&' ∉ formField field := by
  have hname := not_mem_formEncode (by decide : isFormChar '&' = false) field.1
  have hvalue := not_mem_formEncode (by decide : isFormChar '&' = false) field.2
  simp [formField, hname, hvalue]

/-- The fields of a form read back, all of them, in their order, and nothing else. -/
theorem formPairs_formFields (fields : List (String × String)) :
    formPairs (formFields fields) =
      fields.map fun (name, value) => (Bytes.ofText name, Bytes.ofText value) := by
  have hwritten : formFields fields = Text.join ['&'] (fields.map formField) := rfl
  cases fields with
  | nil => rfl
  | cons field fields =>
      -- No field holds the separator, and none is empty: each has its equals sign.
      have hfree : ∀ piece ∈ formField field :: fields.map formField, '&' ∉ piece := by
        intro piece hpiece
        obtain ⟨other, _, rfl⟩ := List.mem_map.1 (List.map_cons ▸ hpiece)
        exact not_mem_formField other
      have hne : ∀ piece ∈ (field :: fields).map formField, decide (piece ≠ []) = true := by
        intro piece hpiece
        obtain ⟨other, _, rfl⟩ := List.mem_map.1 hpiece
        simp [formField]
      rw [formPairs, hwritten, List.map_cons, Text.separate_join '&' _ _ hfree, ← List.map_cons,
        List.filter_eq_self.2 hne, List.map_map]
      apply List.map_congr_left
      intro other _
      simp only [Function.comp_apply, breakAt?_formField, formDecode_formEncode]

end CloudCredentials.Url
