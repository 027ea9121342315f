import CloudCredentials.Text.Bytes

/-!
# Bytes that are read in any case

`lossyText` reads every sequence of bytes as a text. `ReadsAs` says what the bytes are read as,
without the reader: a character where they are those of one, and one replacement character for each
longest run of bytes that begins a character and does not complete it. `lossyText_eq_iff` says that
the reader gives just this.
-/

namespace CloudCredentials.Bytes

/-! ## What the reader does with one byte -/

/-- A byte with which no character begins is replaced. -/
theorem lossyChars_of_none {byte : UInt8} (h : firstByte byte = none) (rest : Bytes) :
    lossyChars none (byte :: rest) = replacement :: lossyChars none rest := by
  rw [lossyChars, h]

/-- A byte that is a character is read as that character. -/
theorem lossyChars_of_inl {byte : UInt8} {character : Char}
    (h : firstByte byte = some (.inl character)) (rest : Bytes) :
    lossyChars none (byte :: rest) = character :: lossyChars none rest := by
  rw [lossyChars, h]

/-- A byte that starts a character is read together with the bytes after it. -/
theorem lossyChars_of_inr {byte : UInt8} {unfinished : Unfinished}
    (h : firstByte byte = some (.inr unfinished)) (rest : Bytes) :
    lossyChars none (byte :: rest) = lossyChars (some unfinished) rest := by
  rw [lossyChars, h]

section Continuing

variable {byte low high : UInt8}

/-- A byte that continues a character adds its bits. -/
theorem lossyChars_later (hlow : low ≤ byte) (hhigh : byte ≤ high) (later bits : Nat)
    (rest : Bytes) :
    lossyChars (some ⟨later + 1, bits, low, high⟩) (byte :: rest) =
      lossyChars (some ⟨later, bits * 64 + (byte.toNat - 0x80), 0x80, 0xBF⟩) rest := by
  rw [lossyChars]
  simp [hlow, hhigh]

/-- The last byte of a character completes it. -/
theorem lossyChars_last (hlow : low ≤ byte) (hhigh : byte ≤ high) (bits : Nat) (rest : Bytes) :
    lossyChars (some ⟨0, bits, low, high⟩) (byte :: rest) =
      Char.ofNat (bits * 64 + (byte.toNat - 0x80)) :: lossyChars none rest := by
  rw [lossyChars]
  simp [hlow, hhigh]

/-- A byte that does not continue a character is read afresh, and what came before it is
replaced. -/
theorem lossyChars_interrupted (h : ¬ (low ≤ byte ∧ byte ≤ high)) (later bits : Nat)
    (rest : Bytes) :
    lossyChars (some ⟨later, bits, low, high⟩) (byte :: rest) =
      replacement :: lossyChars none (byte :: rest) := by
  rw [lossyChars, lossyChars]
  simp only [Bool.and_eq_true, decide_eq_true_eq, h, if_false]

end Continuing

/-- Where there is something to read or to finish, characters are read. -/
theorem lossyChars_ne_nil (pending : Option Unfinished) (bytes : Bytes)
    (h : pending = none → bytes ≠ []) : lossyChars pending bytes ≠ [] := by
  induction bytes generalizing pending with
  | nil =>
      cases pending with
      | none => exact absurd rfl (h rfl)
      | some unfinished => simp [lossyChars]
  | cons byte rest ih =>
      have hafresh : lossyChars none (byte :: rest) ≠ [] := by
        cases hfirst : firstByte byte with
        | none => simp [lossyChars_of_none hfirst]
        | some found =>
            cases found with
            | inl character => simp [lossyChars_of_inl hfirst]
            | inr unfinished =>
                rw [lossyChars_of_inr hfirst]
                exact ih (some unfinished) (by simp)
      cases pending with
      | none => exact hafresh
      | some unfinished =>
          obtain ⟨later, bits, low, high⟩ := unfinished
          by_cases hrange : low ≤ byte ∧ byte ≤ high
          · cases later with
            | zero => simp [lossyChars_last hrange.1 hrange.2]
            | succ later =>
                rw [lossyChars_later hrange.1 hrange.2]
                exact ih (some _) (by simp)
          · simp [lossyChars_interrupted hrange]

/-! ## The bytes of a character -/

/-- A byte after the first one of a character holds six bits. -/
theorem toNat_continuing (value : Nat) :
    (UInt8.ofNat (value % 0x40 + 0x80)).toNat = value % 0x40 + 0x80 :=
  toNat_marked value (by decide) (by decide)

/-- The bits that a byte after the first one of a character holds are those that are read. -/
theorem bits_continuing (value : Nat) :
    (UInt8.ofNat (value % 0x40 + 0x80)).toNat - 0x80 = value % 0x40 := by
  rw [toNat_continuing, Nat.add_sub_cancel]

/-- A byte after the first one of a character lies in a range if its number does. -/
theorem continuing_bounds {value : Nat} {low high : UInt8}
    (hlow : low.toNat ≤ value % 0x40 + 0x80) (hhigh : value % 0x40 + 0x80 ≤ high.toNat) :
    low ≤ UInt8.ofNat (value % 0x40 + 0x80) ∧ UInt8.ofNat (value % 0x40 + 0x80) ≤ high := by
  rw [UInt8.le_iff_toNat_le, UInt8.le_iff_toNat_le, toNat_continuing]
  exact ⟨hlow, hhigh⟩

/-- A byte after the second one of a character may hold any six bits. -/
theorem continuing_within (value : Nat) :
    0x80 ≤ UInt8.ofNat (value % 0x40 + 0x80) ∧ UInt8.ofNat (value % 0x40 + 0x80) ≤ 0xBF :=
  continuing_bounds (by show 0x80 ≤ _; omega) (by show _ ≤ 0xBF; omega)

/-- The character with a number is read from one byte. -/
theorem lossyChars_single {code : Nat} (hcode : code < 0x80) (rest : Bytes) :
    lossyChars none (UInt8.ofNat code :: rest) = Char.ofNat code :: lossyChars none rest := by
  have htoNat : (UInt8.ofNat code).toNat = code :=
    UInt8.toNat_ofNat_of_lt' (by show _ < 256; omega)
  refine lossyChars_of_inl ?_ rest
  rw [firstByte, htoNat, if_pos hcode]

/-- The character with a number is read from two bytes. -/
theorem lossyChars_double {code : Nat} (hlow : 0x80 ≤ code) (hhigh : code < 0x800) (rest : Bytes) :
    lossyChars none (UInt8.ofNat (code / 64 % 0x20 + 0xC0) ::
        UInt8.ofNat (code % 0x40 + 0x80) :: rest) = Char.ofNat code :: lossyChars none rest := by
  have hfirst : firstByte (UInt8.ofNat (code / 64 % 0x20 + 0xC0)) =
      some (.inr ⟨0, code / 64 % 0x20, 0x80, 0xBF⟩) := by
    rw [firstByte, toNat_marked _ (by decide) (by decide), if_neg (by omega), if_neg (by omega),
      if_pos (by omega), Nat.add_sub_cancel]
  have hsecond := continuing_within code
  have hbits : code / 64 % 0x20 * 64 + code % 0x40 = code := by omega
  rw [lossyChars_of_inr hfirst, lossyChars_last hsecond.1 hsecond.2, bits_continuing, hbits]

/-- The character with a number is read from three bytes, unless there is no such character. -/
theorem lossyChars_triple {code : Nat} (hlow : 0x800 ≤ code) (hhigh : code < 0x10000)
    (hvalid : code < 0xD800 ∨ 0xDFFF < code) (rest : Bytes) :
    lossyChars none (UInt8.ofNat (code / 4096 % 0x10 + 0xE0) ::
        UInt8.ofNat (code / 64 % 0x40 + 0x80) :: UInt8.ofNat (code % 0x40 + 0x80) :: rest) =
      Char.ofNat code :: lossyChars none rest := by
  generalize hlead : code / 4096 % 0x10 + 0xE0 = lead
  have hfirst : firstByte (UInt8.ofNat (code / 4096 % 0x10 + 0xE0)) =
      some (.inr ⟨1, code / 4096 % 0x10, if lead = 0xE0 then 0xA0 else 0x80,
        if lead = 0xED then 0x9F else 0xBF⟩) := by
    rw [firstByte, toNat_marked _ (by decide) (by decide), if_neg (by omega), if_neg (by omega),
      if_neg (by omega), if_pos (by omega), Nat.add_sub_cancel, hlead]
  -- The number is not one that fewer bytes hold, and not one of a surrogate.
  have hsecond : (if lead = 0xE0 then 0xA0 else 0x80) ≤ UInt8.ofNat (code / 64 % 0x40 + 0x80) ∧
      UInt8.ofNat (code / 64 % 0x40 + 0x80) ≤ if lead = 0xED then 0x9F else 0xBF := by
    refine continuing_bounds ?_ ?_
    · split
      · show 0xA0 ≤ _
        omega
      · show 0x80 ≤ _
        omega
    · split
      · show _ ≤ 0x9F
        omega
      · show _ ≤ 0xBF
        omega
  have hthird := continuing_within code
  have hbits : (code / 4096 % 0x10 * 64 + code / 64 % 0x40) * 64 + code % 0x40 = code := by omega
  rw [← hlead, lossyChars_of_inr hfirst, lossyChars_later hsecond.1 hsecond.2,
    lossyChars_last hthird.1 hthird.2, bits_continuing, bits_continuing, hbits]

/-- The character with a number is read from four bytes, unless there is no such character. -/
theorem lossyChars_quadruple {code : Nat} (hlow : 0x10000 ≤ code) (hhigh : code < 0x110000)
    (rest : Bytes) :
    lossyChars none (UInt8.ofNat (code / 262144 % 0x08 + 0xF0) ::
        UInt8.ofNat (code / 4096 % 0x40 + 0x80) :: UInt8.ofNat (code / 64 % 0x40 + 0x80) ::
        UInt8.ofNat (code % 0x40 + 0x80) :: rest) =
      Char.ofNat code :: lossyChars none rest := by
  generalize hlead : code / 262144 % 0x08 + 0xF0 = lead
  have hfirst : firstByte (UInt8.ofNat (code / 262144 % 0x08 + 0xF0)) =
      some (.inr ⟨2, code / 262144 % 0x08, if lead = 0xF0 then 0x90 else 0x80,
        if lead = 0xF4 then 0x8F else 0xBF⟩) := by
    rw [firstByte, toNat_marked _ (by decide) (by decide), if_neg (by omega), if_neg (by omega),
      if_neg (by omega), if_neg (by omega), if_pos (by omega), Nat.add_sub_cancel, hlead]
  -- The number is not one that fewer bytes hold, and not beyond the last character.
  have hsecond :
      (if lead = 0xF0 then 0x90 else 0x80) ≤ UInt8.ofNat (code / 4096 % 0x40 + 0x80) ∧
        UInt8.ofNat (code / 4096 % 0x40 + 0x80) ≤ if lead = 0xF4 then 0x8F else 0xBF := by
    refine continuing_bounds ?_ ?_
    · split
      · show 0x90 ≤ _
        omega
      · show 0x80 ≤ _
        omega
    · split
      · show _ ≤ 0x8F
        omega
      · show _ ≤ 0xBF
        omega
  have hthird := continuing_within (code / 64)
  have hfourth := continuing_within code
  have hbits : ((code / 262144 % 0x08 * 64 + code / 4096 % 0x40) * 64 + code / 64 % 0x40) * 64 +
      code % 0x40 = code := by omega
  rw [← hlead, lossyChars_of_inr hfirst, lossyChars_later hsecond.1 hsecond.2,
    lossyChars_later hthird.1 hthird.2, lossyChars_last hfourth.1 hfourth.2, bits_continuing,
    bits_continuing, bits_continuing, hbits]

/-- The bytes of a character are read as that character. -/
theorem lossyChars_ofChar (character : Char) (rest : Bytes) :
    lossyChars none (ofChar character ++ rest) = character :: lossyChars none rest := by
  have hbound : character.toNat < 0x110000 ∧
      (character.toNat < 0xD800 ∨ 0xDFFF < character.toNat) := by
    have hvalid : character.toNat.isValidChar := character.valid
    unfold Nat.isValidChar at hvalid
    omega
  rw [ofChar, String.utf8EncodeChar]
  simp only [show character.val.toNat = character.toNat from rfl]
  conv => rhs; rw [← Char.ofNat_toNat character]
  split
  · exact lossyChars_single (by omega) rest
  · split
    · exact lossyChars_double (by omega) (by omega) rest
    · split
      · exact lossyChars_triple (by omega) (by omega) hbound.2 rest
      · exact lossyChars_quadruple (by omega) hbound.1 rest

/-! ## What bytes are read as -/

/-- The bytes are the first bytes of a character, or all of them. -/
def Begins (bytes : Bytes) : Prop :=
  ∃ character missing, ofChar character = bytes ++ missing

/-- Bytes that are replaced together: first bytes of a character without the rest of them, or a byte
with which no character begins. -/
inductive Broken : Bytes → Prop where
  | unfinished (run missing : Bytes) (character : Char) (hrun : run ≠ []) (hmissing : missing ≠ [])
      (h : ofChar character = run ++ missing) : Broken run
  | stray (byte : UInt8) (h : ¬ Begins [byte]) : Broken [byte]

/-- Nothing that comes next can be added to the bytes. -/
def Ends (run rest : Bytes) : Prop :=
  ∀ byte more, rest = byte :: more → ¬ Begins (run ++ [byte])

/-- `ReadsAs bytes characters` says what bytes are read as: a character where they are those of one,
and a replacement character for broken bytes, as many of them as belong together. -/
inductive ReadsAs : Bytes → List Char → Prop where
  | nil : ReadsAs [] []
  | char (character : Char) (rest : Bytes) (characters : List Char) (h : ReadsAs rest characters) :
      ReadsAs (ofChar character ++ rest) (character :: characters)
  | broken (run rest : Bytes) (characters : List Char) (hrun : Broken run) (hends : Ends run rest)
      (h : ReadsAs rest characters) : ReadsAs (run ++ rest) (replacement :: characters)

/-- Bytes begin a character if more of its bytes do. -/
theorem Begins.of_append {bytes more : Bytes} (h : Begins (bytes ++ more)) : Begins bytes := by
  obtain ⟨character, missing, heq⟩ := h
  exact ⟨character, more ++ missing, by rw [heq, List.append_assoc]⟩

/-- A character has bytes. -/
theorem ofChar_ne_nil (character : Char) : ofChar character ≠ [] := by
  intro h
  have hread := lossyChars_ofChar character []
  rw [h] at hread
  cases hread

/-- The bytes of a character do not begin another one. -/
theorem ofChar_append_inj {character other : Char} {rest more : Bytes}
    (h : ofChar character ++ rest = ofChar other ++ more) : character = other ∧ rest = more := by
  have hread := lossyChars_ofChar character rest
  rw [h, lossyChars_ofChar] at hread
  obtain rfl := (List.cons.inj hread).1
  exact ⟨rfl, List.append_cancel_left h⟩

/-! ## Only one reading -/

/-- The bytes of a character do not go on as those of a character. -/
theorem not_ofChar_append {character other : Char} {missing : Bytes} (hmissing : missing ≠ []) :
    ofChar other ≠ ofChar character ++ missing := by
  intro h
  rw [← List.append_nil (ofChar other)] at h
  exact hmissing (ofChar_append_inj h).2.symm

/-- Broken bytes are there. -/
theorem Broken.ne_nil {run : Bytes} (h : Broken run) : run ≠ [] := by
  cases h with
  | unfinished _ _ _ hrun => exact hrun
  | stray byte => exact List.cons_ne_nil byte []

/-- Where there are the bytes of a character, none are broken. -/
theorem Broken.not_char {run rest more : Bytes} {character : Char} (hrun : Broken run)
    (hends : Ends run more) : ofChar character ++ rest ≠ run ++ more := by
  intro h
  obtain ⟨between, hbetween, _⟩ | ⟨between, hbetween, hmore⟩ := List.append_eq_append_iff.1 h
  · cases hrun with
    | unfinished _ missing other hne hmissing hother =>
        -- The broken bytes hold all of a character and begin another one.
        rw [hbetween, List.append_assoc] at hother
        exact not_ofChar_append (List.append_ne_nil_of_right_ne_nil _ hmissing) hother
    | stray byte hstray =>
        obtain ⟨first, bytes, hbytes⟩ := List.exists_cons_of_ne_nil (ofChar_ne_nil character)
        rw [hbytes, List.cons_append] at hbetween
        obtain ⟨rfl, _⟩ := List.cons.inj hbetween
        exact hstray ⟨character, bytes, hbytes⟩
  · cases between with
    | nil =>
        cases hrun with
        | unfinished _ missing other hne hmissing hother =>
            rw [List.append_nil] at hbetween
            rw [← hbetween] at hother
            exact not_ofChar_append hmissing hother
        | stray byte hstray => exact hstray ⟨character, [], hbetween⟩
    | cons byte between =>
        exact hends byte (between ++ rest) hmore
          ⟨character, between, by rw [hbetween, List.append_assoc, List.singleton_append]⟩

/-- Broken bytes do not end inside of those that belong together. -/
theorem Broken.not_inside {run rest between : Bytes} {byte : UInt8} (hrun : Broken run)
    (hends : Ends run (byte :: rest)) : ¬ Broken (run ++ byte :: between) := by
  intro h
  generalize hwhole : run ++ byte :: between = whole at h
  cases h with
  | unfinished _ missing character hne hmissing hcharacter =>
      refine hends byte rest rfl ⟨character, between ++ missing, ?_⟩
      rw [hcharacter, ← hwhole]
      simp
  | stray stray hstray =>
      obtain ⟨first, more, rfl⟩ := List.exists_cons_of_ne_nil hrun.ne_nil
      simp at hwhole

/-- The broken bytes at the beginning are the same in every reading. -/
theorem Broken.unique {run rest other more : Bytes} (hrun : Broken run) (hends : Ends run rest)
    (hother : Broken other) (hotherEnds : Ends other more) (h : run ++ rest = other ++ more) :
    run = other ∧ rest = more := by
  obtain ⟨between, hbetween, hrest⟩ | ⟨between, hbetween, hmore⟩ := List.append_eq_append_iff.1 h
  · cases between with
    | nil => exact ⟨by rw [hbetween, List.append_nil], hrest⟩
    | cons byte between =>
        rw [hrest] at hends
        exact absurd (hbetween ▸ hother) (hrun.not_inside hends)
  · cases between with
    | nil => exact ⟨by rw [hbetween, List.append_nil], hmore.symm⟩
    | cons byte between =>
        rw [hmore] at hotherEnds
        exact absurd (hbetween ▸ hrun) (hother.not_inside hotherEnds)

/-- Bytes are read in one way only. -/
theorem ReadsAs.unique {bytes : Bytes} {characters others : List Char}
    (h : ReadsAs bytes characters) (hother : ReadsAs bytes others) : characters = others := by
  induction h generalizing others with
  | nil =>
      generalize hbytes : ([] : Bytes) = bytes at hother
      cases hother with
      | nil => rfl
      | char character rest _ _ =>
          exact absurd (List.append_eq_nil_iff.1 hbytes.symm).1 (ofChar_ne_nil character)
      | broken run rest _ hrun _ _ =>
          exact absurd (List.append_eq_nil_iff.1 hbytes.symm).1 hrun.ne_nil
  | char character rest characters _ ih =>
      generalize hbytes : ofChar character ++ rest = bytes at hother
      cases hother with
      | nil => exact absurd (List.append_eq_nil_iff.1 hbytes).1 (ofChar_ne_nil character)
      | char other more others hmore =>
          obtain ⟨rfl, rfl⟩ := ofChar_append_inj hbytes
          rw [ih hmore]
      | broken run more others hrun hends _ => exact absurd hbytes (hrun.not_char hends)
  | broken run rest characters hrun hends _ ih =>
      generalize hbytes : run ++ rest = bytes at hother
      cases hother with
      | nil => exact absurd (List.append_eq_nil_iff.1 hbytes).1 hrun.ne_nil
      | char other more others hmore => exact absurd hbytes.symm (hrun.not_char hends)
      | broken other more others hother hotherEnds hmore =>
          obtain ⟨rfl, rfl⟩ := hrun.unique hends hother hotherEnds hbytes
          rw [ih hmore]

/-! ## The reader gives this reading -/

/-- The states after a byte that starts a character of two, three or four bytes. -/
theorem firstByte_eq_inr {byte : UInt8} {unfinished : Unfinished}
    (h : firstByte byte = some (.inr unfinished)) :
    (0xC2 ≤ byte.toNat ∧ byte.toNat < 0xE0 ∧
        unfinished = ⟨0, byte.toNat - 0xC0, 0x80, 0xBF⟩) ∨
      (0xE0 ≤ byte.toNat ∧ byte.toNat < 0xF0 ∧
        unfinished = ⟨1, byte.toNat - 0xE0, if byte.toNat = 0xE0 then 0xA0 else 0x80,
          if byte.toNat = 0xED then 0x9F else 0xBF⟩) ∨
      (0xF0 ≤ byte.toNat ∧ byte.toNat < 0xF5 ∧
        unfinished = ⟨2, byte.toNat - 0xF0, if byte.toNat = 0xF0 then 0x90 else 0x80,
          if byte.toNat = 0xF4 then 0x8F else 0xBF⟩) := by
  simp only [firstByte] at h
  split at h
  · cases h
  · split at h
    · cases h
    · split at h
      · cases h
        exact .inl ⟨by omega, by omega, rfl⟩
      · split at h
        · cases h
          exact .inr (.inl ⟨by omega, by omega, rfl⟩)
        · split at h
          · cases h
            exact .inr (.inr ⟨by omega, by omega, rfl⟩)
          · cases h

/-- `Opened run unfinished` says that the reader has taken a run of bytes and waits for the rest of
their character. -/
inductive Opened : Bytes → Unfinished → Prop where
  | first (byte : UInt8) (unfinished : Unfinished) (h : firstByte byte = some (.inr unfinished)) :
      Opened [byte] unfinished
  | later (run : Bytes) (byte low high : UInt8) (later bits : Nat)
      (h : Opened run ⟨later + 1, bits, low, high⟩) (hlow : low ≤ byte) (hhigh : byte ≤ high) :
      Opened (run ++ [byte]) ⟨later, bits * 64 + (byte.toNat - 0x80), 0x80, 0xBF⟩

/-- Bytes that have been taken are no characters yet. -/
theorem Opened.reads {run : Bytes} {unfinished : Unfinished} (h : Opened run unfinished)
    (rest : Bytes) : lossyChars none (run ++ rest) = lossyChars (some unfinished) rest := by
  induction h generalizing rest with
  | first byte unfinished h => exact lossyChars_of_inr h rest
  | later run byte low high later bits _ hlow hhigh ih =>
      rw [List.append_assoc, List.singleton_append, ih, lossyChars_later hlow hhigh]

/-- A byte may come next after bytes that have been taken. -/
theorem Opened.low_le_high {run : Bytes} {unfinished : Unfinished} (h : Opened run unfinished) :
    unfinished.low ≤ unfinished.high := by
  cases h with
  | first byte _ h =>
      obtain ⟨_, _, rfl⟩ | ⟨_, _, rfl⟩ | ⟨_, _, rfl⟩ := firstByte_eq_inr h
      · show (0x80 : UInt8) ≤ 0xBF
        decide
      · dsimp only
        split
        · rw [if_neg (by omega)]
          decide
        · split <;> decide
      · dsimp only
        split
        · rw [if_neg (by omega)]
          decide
        · split <;> decide
  | later =>
      show (0x80 : UInt8) ≤ 0xBF
      decide

/-- The next byte continues or completes what has been taken, or no character has it there. -/
theorem Opened.ends {run : Bytes} {byte low high : UInt8} {later bits : Nat}
    (h : Opened run ⟨later, bits, low, high⟩) (hrange : ¬ (low ≤ byte ∧ byte ≤ high))
    (rest : Bytes) : Ends run (byte :: rest) := by
  rintro _ _ ⟨⟩ ⟨character, missing, heq⟩
  -- The bytes of the character would be read as a replacement character and more.
  have hread := lossyChars_ofChar character []
  rw [heq, List.append_nil, List.append_assoc, List.singleton_append, h.reads,
    lossyChars_interrupted hrange] at hread
  exact lossyChars_ne_nil none (byte :: missing) (by simp) (List.cons.inj hread).2

/-- No character begins with a byte that starts none. -/
theorem not_begins_of_none {byte : UInt8} (h : firstByte byte = none) : ¬ Begins [byte] := by
  rintro ⟨character, missing, heq⟩
  have hread := lossyChars_ofChar character []
  rw [heq, List.append_nil, List.singleton_append, lossyChars_of_none h] at hread
  obtain ⟨rfl, hrest⟩ := List.cons.inj hread
  -- The character would be the replacement character, which has three bytes.
  have hmissing : missing = [] := by
    refine Classical.byContradiction fun hne => ?_
    exact lossyChars_ne_nil none missing (fun _ => hne) hrest
  have hlength : (ofChar replacement).length = 3 := by decide
  rw [heq, hmissing] at hlength
  cases hlength

/-- The character with a number that is one has that number. -/
theorem toNat_ofNat {code : Nat} (h : code < 0xD800 ∨ 0xDFFF < code ∧ code < 0x110000) :
    (Char.ofNat code).toNat = code := by
  rw [Char.ofNat, dif_pos h]
  rfl

/-- A byte is made from its number. -/
theorem ofNat_eq_of_toNat (byte : UInt8) {value range mark : Nat} (hrange : 0 < range)
    (hfits : range + mark ≤ 256) (h : value % range + mark = byte.toNat) :
    UInt8.ofNat (value % range + mark) = byte :=
  UInt8.toNat_inj.1 ((toNat_marked value hrange hfits).trans h)

/-- The number of the byte lies between two others. -/
def Within (low high : Nat) (byte : UInt8) : Prop :=
  low ≤ byte.toNat ∧ byte.toNat ≤ high

/-- Two bytes that the reader takes for a character are the bytes of that character. -/
theorem ofChar_double {first second : UInt8} (hfirst : Within 0xC2 0xDF first)
    (hsecond : Within 0x80 0xBF second) :
    ofChar (Char.ofNat ((first.toNat - 0xC0) * 64 + (second.toNat - 0x80))) = [first, second] := by
  unfold Within at hfirst hsecond
  generalize hcode : (first.toNat - 0xC0) * 64 + (second.toNat - 0x80) = code
  have hnumber : (Char.ofNat code).val.toNat = code := toNat_ofNat (by omega)
  rw [ofChar, String.utf8EncodeChar]
  simp only [hnumber]
  rw [if_neg (by omega), if_pos (by omega),
    ofNat_eq_of_toNat first (by decide) (by decide) (by omega),
    ofNat_eq_of_toNat second (by decide) (by decide) (by omega)]

/-- Three bytes that the reader takes for a character are the bytes of that character. -/
theorem ofChar_triple {first second third : UInt8} (hfirst : Within 0xE0 0xEF first)
    (hsecond : Within (if first.toNat = 0xE0 then 0xA0 else 0x80)
      (if first.toNat = 0xED then 0x9F else 0xBF) second) (hthird : Within 0x80 0xBF third) :
    ofChar (Char.ofNat (((first.toNat - 0xE0) * 64 + (second.toNat - 0x80)) * 64 +
      (third.toNat - 0x80))) = [first, second, third] := by
  unfold Within at hfirst hsecond hthird
  generalize hcode : ((first.toNat - 0xE0) * 64 + (second.toNat - 0x80)) * 64 +
    (third.toNat - 0x80) = code
  -- The range of the second byte keeps the number away from shorter characters and surrogates.
  have hbounds : 0x800 ≤ code ∧ code < 0x10000 ∧ (code < 0xD800 ∨ 0xDFFF < code) ∧
      0x80 ≤ second.toNat ∧ second.toNat ≤ 0xBF := by
    split at hsecond <;> split at hsecond <;> omega
  have hnumber : (Char.ofNat code).val.toNat = code := toNat_ofNat (by omega)
  rw [ofChar, String.utf8EncodeChar]
  simp only [hnumber]
  rw [if_neg (by omega), if_neg (by omega), if_pos (by omega),
    ofNat_eq_of_toNat first (by decide) (by decide) (by omega),
    ofNat_eq_of_toNat second (by decide) (by decide) (by omega),
    ofNat_eq_of_toNat third (by decide) (by decide) (by omega)]

/-- Four bytes that the reader takes for a character are the bytes of that character. -/
theorem ofChar_quadruple {first second third fourth : UInt8} (hfirst : Within 0xF0 0xF4 first)
    (hsecond : Within (if first.toNat = 0xF0 then 0x90 else 0x80)
      (if first.toNat = 0xF4 then 0x8F else 0xBF) second) (hthird : Within 0x80 0xBF third)
    (hfourth : Within 0x80 0xBF fourth) :
    ofChar (Char.ofNat ((((first.toNat - 0xF0) * 64 + (second.toNat - 0x80)) * 64 +
      (third.toNat - 0x80)) * 64 + (fourth.toNat - 0x80))) = [first, second, third, fourth] := by
  unfold Within at hfirst hsecond hthird hfourth
  generalize hcode : (((first.toNat - 0xF0) * 64 + (second.toNat - 0x80)) * 64 +
    (third.toNat - 0x80)) * 64 + (fourth.toNat - 0x80) = code
  -- The range of the second byte keeps the number away from shorter and from absent characters.
  have hbounds : 0x10000 ≤ code ∧ code < 0x110000 ∧
      0x80 ≤ second.toNat ∧ second.toNat ≤ 0xBF := by
    split at hsecond <;> split at hsecond <;> omega
  have hnumber : (Char.ofNat code).val.toNat = code := toNat_ofNat (by omega)
  rw [ofChar, String.utf8EncodeChar]
  simp only [hnumber]
  rw [if_neg (by omega), if_neg (by omega), if_neg (by omega),
    ofNat_eq_of_toNat first (by decide) (by decide) (by omega),
    ofNat_eq_of_toNat second (by decide) (by decide) (by omega),
    ofNat_eq_of_toNat third (by decide) (by decide) (by omega),
    ofNat_eq_of_toNat fourth (by decide) (by decide) (by omega)]

/-- Three bytes at most are missing of a character, and one of them comes next. -/
theorem Opened.later_le_two {run : Bytes} {unfinished : Unfinished} (h : Opened run unfinished) :
    unfinished.later ≤ 2 := by
  induction h with
  | first byte _ h =>
      obtain ⟨_, _, rfl⟩ | ⟨_, _, rfl⟩ | ⟨_, _, rfl⟩ := firstByte_eq_inr h
      · exact Nat.zero_le 2
      · exact Nat.le_succ 1
      · exact Nat.le_refl 2
  | later _ _ _ _ later _ _ _ _ ih => exact Nat.le_of_succ_le ih

/-- A byte between two others has a number between theirs. -/
theorem within_of_le {byte low high : UInt8} (hlow : low ≤ byte) (hhigh : byte ≤ high) :
    Within low.toNat high.toNat byte :=
  ⟨UInt8.le_iff_toNat_le.1 hlow, UInt8.le_iff_toNat_le.1 hhigh⟩

/-- The last byte of a character completes its bytes. -/
theorem Opened.completes {run : Bytes} {byte low high : UInt8} {bits : Nat}
    (h : Opened run ⟨0, bits, low, high⟩) (hlow : low ≤ byte) (hhigh : byte ≤ high) :
    ofChar (Char.ofNat (bits * 64 + (byte.toNat - 0x80))) = run ++ [byte] := by
  have hbyte := within_of_le hlow hhigh
  -- The cases are how many bytes of the character there are before the last one.
  cases h with
  | first first _ hstart =>
      obtain ⟨hlead, hless, heq⟩ | ⟨_, _, heq⟩ | ⟨_, _, heq⟩ := firstByte_eq_inr hstart
      · obtain ⟨_, hbits, hlowest, hhighest⟩ := Unfinished.mk.inj heq
        rw [hlowest, hhighest] at hbyte
        rw [hbits]
        exact ofChar_double ⟨hlead, Nat.le_of_lt_succ hless⟩ hbyte
      · cases heq
      · cases heq
  | later run previous _ _ _ _ h hleast hgreatest =>
      have hprevious := within_of_le hleast hgreatest
      cases h with
      | first first _ hstart =>
          obtain ⟨_, _, heq⟩ | ⟨hlead, hless, heq⟩ | ⟨_, _, heq⟩ := firstByte_eq_inr hstart
          · cases heq
          · obtain ⟨_, hbits, hlowest, hhighest⟩ := Unfinished.mk.inj heq
            rw [hlowest, hhighest, apply_ite UInt8.toNat, apply_ite UInt8.toNat] at hprevious
            rw [hbits]
            exact ofChar_triple ⟨hlead, Nat.le_of_lt_succ hless⟩ hprevious hbyte
          · cases heq
      | later run earlier _ _ _ _ h hlower hupper =>
          have hearlier := within_of_le hlower hupper
          cases h with
          | first first _ hstart =>
              obtain ⟨_, _, heq⟩ | ⟨_, _, heq⟩ | ⟨hlead, hless, heq⟩ := firstByte_eq_inr hstart
              · cases heq
              · cases heq
              · obtain ⟨_, hbits, hlowest, hhighest⟩ := Unfinished.mk.inj heq
                rw [hlowest, hhighest, apply_ite UInt8.toNat, apply_ite UInt8.toNat] at hearlier
                rw [hbits]
                exact ofChar_quadruple ⟨hlead, Nat.le_of_lt_succ hless⟩ hearlier hprevious hbyte
          | later run _ _ _ _ _ h => exact absurd h.later_le_two (by show ¬ 3 ≤ 2; decide)

/-- Bytes that have been taken are some of a character, and not all. -/
theorem Opened.broken {run : Bytes} {unfinished : Unfinished} (h : Opened run unfinished) :
    Broken run := by
  have hmissing : ∃ character missing, missing ≠ [] ∧ ofChar character = run ++ missing := by
    obtain ⟨later, bits, low, high⟩ := unfinished
    -- The least bytes that may come next complete a character.
    induction later generalizing run bits low high with
    | zero =>
        exact ⟨_, [low], List.cons_ne_nil low [], h.completes (UInt8.le_refl low) h.low_le_high⟩
    | succ later ih =>
        obtain ⟨character, missing, _, hcharacter⟩ :=
          ih _ _ _ (.later run low low high later bits h (UInt8.le_refl low) h.low_le_high)
        refine ⟨character, low :: missing, List.cons_ne_nil low missing, ?_⟩
        rw [hcharacter, List.append_assoc, List.singleton_append]
  obtain ⟨character, missing, hne, hcharacter⟩ := hmissing
  refine .unfinished run missing character ?_ hne hcharacter
  cases h with
  | first byte => exact List.cons_ne_nil byte []
  | later run byte => exact List.append_ne_nil_of_right_ne_nil run (List.cons_ne_nil byte [])

/-- A byte that is a character is all of its bytes. -/
theorem ofChar_of_inl {byte : UInt8} {character : Char}
    (h : firstByte byte = some (.inl character)) : ofChar character = [byte] := by
  simp only [firstByte] at h
  split at h
  · next hascii =>
      cases h
      have hnumber := toNat_ofNat_of_ascii byte.toNat hascii
      rw [ofChar_of_ascii (by rw [hnumber]; exact hascii), hnumber, UInt8.ofNat_toNat]
  · split at h
    · cases h
    · split at h
      · cases h
      · split at h
        · cases h
        · split at h <;> cases h

/-- The reader gives a reading of bytes, and of bytes after those that it has taken. -/
theorem readsAs_lossyChars (bytes : Bytes) :
    ReadsAs bytes (lossyChars none bytes) ∧
      ∀ run unfinished, Opened run unfinished →
        ReadsAs (run ++ bytes) (lossyChars (some unfinished) bytes) := by
  induction bytes with
  | nil =>
      refine ⟨.nil, fun run unfinished h => ?_⟩
      rw [lossyChars]
      exact .broken run [] [] h.broken (by rintro _ _ ⟨⟩) .nil
  | cons byte rest ih =>
      obtain ⟨hrest, hopen⟩ := ih
      have hafresh : ReadsAs (byte :: rest) (lossyChars none (byte :: rest)) := by
        cases hfirst : firstByte byte with
        | none =>
            have hstray := not_begins_of_none hfirst
            rw [lossyChars_of_none hfirst]
            exact .broken [byte] rest _ (.stray byte hstray)
              (fun _ _ _ hbegins => hstray hbegins.of_append) hrest
        | some found =>
            cases found with
            | inl character =>
                rw [lossyChars_of_inl hfirst, ← List.singleton_append, ← ofChar_of_inl hfirst]
                exact .char character rest _ hrest
            | inr unfinished =>
                rw [lossyChars_of_inr hfirst]
                exact hopen [byte] unfinished (.first byte unfinished hfirst)
      refine ⟨hafresh, ?_⟩
      rintro run ⟨later, bits, low, high⟩ h
      by_cases hrange : low ≤ byte ∧ byte ≤ high
      · rw [List.append_cons]
        cases later with
        | zero =>
            rw [lossyChars_last hrange.1 hrange.2, ← h.completes hrange.1 hrange.2]
            exact .char _ rest _ hrest
        | succ later =>
            rw [lossyChars_later hrange.1 hrange.2]
            exact hopen _ _ (.later run byte low high later bits h hrange.1 hrange.2)
      · rw [lossyChars_interrupted hrange]
        exact .broken run (byte :: rest) _ h.broken (h.ends hrange rest) hafresh

/-- The text that bytes are read as in any case is their only reading. -/
theorem lossyText_eq_iff (bytes : Bytes) (text : String) :
    lossyText bytes = text ↔ ReadsAs bytes text.toList := by
  have hreads := (readsAs_lossyChars bytes).1
  constructor
  · rintro rfl
    rw [lossyText, String.toList_ofList]
    exact hreads
  · intro h
    rw [lossyText, hreads.unique h, String.ofList_toList]

-- The first two bytes begin a character together, the byte after them begins none.
example : lossyText [0xE2, 0x82, 0xFF, 0x41] = "\uFFFD\uFFFDA" := by decide

end CloudCredentials.Bytes
