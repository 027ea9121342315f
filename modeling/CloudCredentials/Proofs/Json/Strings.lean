import CloudCredentials.Json.Reader

/-!
# Written strings read back

A string is written with escapes for what may not stand for itself. `takeToken_writeString` says
that such a string is taken as one token up to its closing quote, whatever the text holds, and
`pieceText_textPieces` that the token denotes the text that was written.
-/

namespace CloudCredentials.Json

/-- The character has no one-letter escape and is a control character. -/
def hasUnitEscape (character : Char) : Bool :=
  character.toNat < 32 && !(List.contains [8, 9, 10, 12, 13] character.toNat)

/-- The pieces as which a written character is read. -/
def writtenPieces (character : Char) : List Piece :=
  if hasUnitEscape character then [.unit character.toNat]
  else (Bytes.ofChar character).map .byte

/-- Put pieces in front of a string that has been read. -/
def piecesBefore (pieces : List Piece) (read : List Piece × Bytes) : List Piece × Bytes :=
  (pieces ++ read.1, read.2)

/-- A byte that stands for itself is taken as it is. -/
theorem takeString_plain {byte : UInt8} (hquote : byte ≠ 0x22) (hescape : byte ≠ 0x5C)
    (hcontrol : ¬ byte < 0x20) (rest : Bytes) :
    takeString (byte :: rest) = (takeString rest).map (piecesBefore [.byte byte]) := by
  rw [takeString.eq_def]
  simp only [beq_iff_eq, hquote, hescape, hcontrol, if_false]
  cases takeString rest <;> rfl

/-- A one-letter escape is taken for the byte that it stands for. -/
theorem takeString_escape {letter value : UInt8} (h : shortEscape? letter = some value)
    (rest : Bytes) : takeString (0x5C :: letter :: rest) =
      (takeString rest).map (piecesBefore [.byte value]) := by
  have hletter : letter ≠ 0x75 := by
    rintro rfl
    cases h
  rw [takeString.eq_def]
  simp only [beq_iff_eq, hletter, if_false, h]
  cases takeString rest <;> rfl

/-- Four hexadecimal digits are taken for the code unit that they denote. -/
theorem takeString_unit {first second third fourth : UInt8} {code : Nat}
    (h : codeUnit? first second third fourth = some code) (rest : Bytes) :
    takeString (0x5C :: 0x75 :: first :: second :: third :: fourth :: rest) =
      (takeString rest).map (piecesBefore [.unit code]) := by
  rw [takeString]
  simp only [h]
  cases takeString rest <;> rfl

/-- Bytes outside of ASCII are taken as they are. -/
theorem takeString_plainBytes {bytes : Bytes} (h : ∀ byte ∈ bytes, 0x80 ≤ byte.toNat)
    (rest : Bytes) :
    takeString (bytes ++ rest) = (takeString rest).map (piecesBefore (bytes.map .byte)) := by
  induction bytes with
  | nil =>
      rw [List.nil_append]
      cases takeString rest <;> rfl
  | cons byte bytes ih =>
      have hbyte := h byte List.mem_cons_self
      have hquote : byte ≠ 0x22 := fun heq => by simp [heq] at hbyte
      have hescape : byte ≠ 0x5C := fun heq => by simp [heq] at hbyte
      have hcontrol : ¬ byte < 0x20 := by
        rw [UInt8.lt_iff_toNat_lt]
        exact Nat.not_lt.2 (Nat.le_trans (by decide) hbyte)
      rw [List.cons_append, takeString_plain hquote hescape hcontrol,
        ih fun other hother => h other (List.mem_cons_of_mem _ hother)]
      cases takeString rest <;> rfl

/-- A hexadecimal digit of an escape is a byte with the value that it was made from. -/
theorem hexDigit_reads (value : Nat) :
    ∃ byte, Bytes.ofChar (hexDigit value) = [byte] ∧ hexDigit? byte = some (value % 16) := by
  have hall : ∀ value < 16, (Nat.digitChar value).toNat < 0x80 ∧
      hexDigit? (UInt8.ofNat (Nat.digitChar value).toNat) = some value := by decide
  obtain ⟨hascii, hvalue⟩ := hall (value % 16) (Nat.mod_lt _ (by decide))
  exact ⟨_, Bytes.ofChar_of_ascii hascii, hvalue⟩

/-- The number of a control character is written as a code unit that denotes it. -/
theorem codeUnit?_hexDigits {code : Nat} (h : code < 256) :
    ∃ third fourth, Bytes.ofChar (hexDigit (code / 16)) = [third] ∧
      Bytes.ofChar (hexDigit code) = [fourth] ∧
      codeUnit? 0x30 0x30 third fourth = some code := by
  obtain ⟨third, hthird, hhigh⟩ := hexDigit_reads (code / 16)
  obtain ⟨fourth, hfourth, hlow⟩ := hexDigit_reads code
  have hsum : code / 16 % 16 * 16 + code % 16 = code := by omega
  have hzero : hexDigit? 0x30 = some 0 := rfl
  exact ⟨third, fourth, hthird, hfourth, by simp [codeUnit?, hzero, hhigh, hlow, hsum]⟩

/-- A character that may stand for itself is taken as its bytes. -/
theorem takeString_plainChar {character : Char} (hquote : character ≠ '"')
    (hescape : character ≠ '\\') (hcontrol : ¬ character.toNat < 0x20) (rest : Bytes) :
    takeString (Bytes.ofChar character ++ rest) =
      (takeString rest).map (piecesBefore ((Bytes.ofChar character).map .byte)) := by
  by_cases hascii : character.toNat < 0x80
  · have hbyte : (UInt8.ofNat character.toNat).toNat = character.toNat :=
      UInt8.toNat_ofNat_of_lt' (Nat.lt_trans hascii (by decide))
    rw [Bytes.ofChar_of_ascii hascii]
    apply takeString_plain
    · intro heq
      exact hquote (Char.toNat_inj.1 (hbyte.symm.trans (congrArg UInt8.toNat heq)))
    · intro heq
      exact hescape (Char.toNat_inj.1 (hbyte.symm.trans (congrArg UInt8.toNat heq)))
    · rw [UInt8.lt_iff_toNat_lt, hbyte]
      exact hcontrol
  · have hbytes : ∀ byte ∈ Bytes.ofChar character, 0x80 ≤ byte.toNat := fun byte hbyte =>
      Bytes.le_of_mem_ofChar (Nat.le_of_not_lt hascii) hbyte
    exact takeString_plainBytes hbytes rest

/-- A written character is taken as its pieces, whatever follows. -/
theorem takeString_writeChar (character : Char) (rest : Bytes) :
    takeString ((writeChar character).flatMap Bytes.ofChar ++ rest) =
      (takeString rest).map (piecesBefore (writtenPieces character)) := by
  rw [writeChar]
  -- The cases are those of the writer: seven escapes of one letter, the control characters that
  -- are left, and every other character.
  split
  · next h => subst h; exact takeString_escape rfl rest
  split
  · next h => subst h; exact takeString_escape rfl rest
  split
  · next h => subst h; exact takeString_escape rfl rest
  split
  · next h => subst h; exact takeString_escape rfl rest
  split
  · next h => subst h; exact takeString_escape rfl rest
  split
  · next h =>
      have h : character = Char.ofNat 8 := Char.toNat_inj.1 h
      subst h
      exact takeString_escape rfl rest
  split
  · next h =>
      have h : character = Char.ofNat 12 := Char.toNat_inj.1 h
      subst h
      exact takeString_escape rfl rest
  split
  · next _ _ hline hreturn htabulator hback hfeed hcontrol =>
      have hunit : hasUnitEscape character = true := by
        have hline' : character.toNat ≠ 10 := fun heq => hline (Char.toNat_inj.1 heq)
        have hreturn' : character.toNat ≠ 13 := fun heq => hreturn (Char.toNat_inj.1 heq)
        have htabulator' : character.toNat ≠ 9 := fun heq => htabulator (Char.toNat_inj.1 heq)
        simp [hasUnitEscape, hcontrol, hback, htabulator', hline', hfeed, hreturn']
      obtain ⟨third, fourth, hthird, hfourth, hcode⟩ :=
        codeUnit?_hexDigits (Nat.lt_trans hcontrol (by decide))
      rw [writtenPieces, hunit, if_pos rfl]
      simp only [List.flatMap_cons, hthird, hfourth]
      exact takeString_unit hcode rest
  · next hquote hescape _ _ _ _ _ hcontrol =>
      have hunit : hasUnitEscape character = false := by simp [hasUnitEscape, hcontrol]
      rw [writtenPieces, hunit, if_neg Bool.false_ne_true, List.flatMap_cons, List.flatMap_nil,
        List.append_nil]
      exact takeString_plainChar hquote hescape hcontrol rest

/-- The pieces as which a written text is read. -/
def textPieces (text : String) : List Piece :=
  text.toList.flatMap writtenPieces

/-- Written characters are taken as their pieces, up to the quote behind them. -/
theorem takeString_writeChars (characters : List Char) (rest : Bytes) :
    takeString ((characters.flatMap writeChar).flatMap Bytes.ofChar ++ 0x22 :: rest) =
      some (characters.flatMap writtenPieces, rest) := by
  induction characters with
  | nil =>
      rw [List.flatMap_nil, List.flatMap_nil, List.nil_append, takeString.eq_def]
      rfl
  | cons character characters ih =>
      rw [List.flatMap_cons, List.flatMap_append, List.append_assoc, takeString_writeChar, ih]
      rfl

/-- A written string is taken as one token, whatever follows. -/
theorem takeToken_writeString (text : String) :
    ∃ written, (writeString text).flatMap Bytes.ofChar = 0x22 :: written ∧
      ∀ rest, takeToken 0x22 (written ++ rest) = some (.string (textPieces text), rest) := by
  refine ⟨(text.toList.flatMap writeChar).flatMap Bytes.ofChar ++ [0x22], ?_, ?_⟩
  · rw [writeString, List.flatMap_append]
    rfl
  · intro rest
    have hstring := takeString_writeChars text.toList rest
    rw [List.append_assoc, List.cons_append, List.nil_append]
    simp [takeToken, hstring, textPieces]

/-- The piece of a code unit that is no surrogate denotes the character of that number. -/
theorem pieceBytes_unit {code : Nat} (h : code < 0xD800) (rest : List Piece) :
    pieceBytes (.unit code :: rest) =
      (pieceBytes rest).map (Bytes.ofChar (.ofNat code) ++ ·) := by
  have hhigh : isHighSurrogate code = false := by
    simp only [isHighSurrogate, Bool.and_eq_false_iff, decide_eq_false_iff_not]
    omega
  have hlow : isLowSurrogate code = false := by
    simp only [isLowSurrogate, Bool.and_eq_false_iff, decide_eq_false_iff_not]
    omega
  cases rest with
  | nil => simp [pieceBytes, hhigh, hlow]
  | cons piece rest =>
      cases piece with
      | byte value => simp [pieceBytes, hhigh, hlow]
      | unit other => simp [pieceBytes, hhigh, hlow]

/-- The pieces of bytes denote these bytes. -/
theorem pieceBytes_bytes (bytes : Bytes) (rest : List Piece) :
    pieceBytes (bytes.map .byte ++ rest) = (pieceBytes rest).map (bytes ++ ·) := by
  induction bytes with
  | nil => simp
  | cons byte bytes ih =>
      rw [List.map_cons, List.cons_append, pieceBytes, ih, Option.map_map]
      rfl

/-- The pieces of a written character denote its bytes. -/
theorem pieceBytes_writtenPieces (character : Char) (rest : List Piece) :
    pieceBytes (writtenPieces character ++ rest) =
      (pieceBytes rest).map (Bytes.ofChar character ++ ·) := by
  rw [writtenPieces]
  split
  · next hunit =>
      have hcontrol : character.toNat < 0xD800 := by
        simp only [hasUnitEscape, Bool.and_eq_true, decide_eq_true_eq] at hunit
        omega
      rw [List.cons_append, List.nil_append, pieceBytes_unit hcontrol, Char.ofNat_toNat]
  · exact pieceBytes_bytes _ rest

/-- The pieces of a written text denote its bytes. -/
theorem pieceBytes_textPieces (text : String) :
    pieceBytes (textPieces text) = some (Bytes.ofText text) := by
  rw [textPieces, Bytes.ofText]
  generalize text.toList = characters
  induction characters with
  | nil => rfl
  | cons character characters ih =>
      rw [List.flatMap_cons, pieceBytes_writtenPieces, ih]
      rfl

/-- The pieces of a written text denote that text. -/
@[simp] theorem pieceText_textPieces (text : String) : pieceText (textPieces text) = some text := by
  rw [pieceText, pieceBytes_textPieces]
  exact Bytes.text?_ofText text

end CloudCredentials.Json
