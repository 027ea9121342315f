import CloudCredentials.Json.Reader
import CloudCredentials.Json.Value
import CloudCredentials.Proofs.Json.Integers

/-!
# Numerals read the same wherever they stand

A numeral ends where the input cannot go on it. `takeNumeral_append` says that more input behind it
changes nothing then, and `takeToken_of_readText` that a written number that is read back as a text
of its own is taken as one numeral wherever it stands.
-/

namespace CloudCredentials.Json

/-! ## More input behind a numeral -/

/-- The input does not begin with a digit. -/
def EndsDigits (input : Bytes) : Prop :=
  ∀ byte rest, input = byte :: rest → digit? byte = none

/-- Input that cannot go on a numeral cannot go on its digits. -/
theorem EndsNumeral.endsDigits {rest : Bytes} (h : EndsNumeral rest) : EndsDigits rest :=
  fun byte more heq => (h byte more heq).1

/-- Digits are followed by what does not begin with a digit. -/
theorem takeDigits_append_rest (input : Bytes) {rest : Bytes} (h : EndsDigits rest) :
    takeDigits (input ++ rest) = ((takeDigits input).1, (takeDigits input).2 ++ rest) := by
  induction input with
  | nil =>
      cases rest with
      | nil => rfl
      | cons byte rest => simp [takeDigits, h byte rest rfl]
  | cons byte input ih =>
      rw [List.cons_append, takeDigits, takeDigits, ih]
      cases digit? byte with
      | none => rfl
      | some digit => rfl

/-- Digits that are there are taken as before. -/
theorem takeSomeDigits_append {input more rest : Bytes} {digits : List Nat}
    (h : takeSomeDigits input = some (digits, more)) (hrest : EndsDigits rest) :
    takeSomeDigits (input ++ rest) = some (digits, more ++ rest) := by
  unfold takeSomeDigits at h ⊢
  rw [takeDigits_append_rest input hrest]
  generalize takeDigits input = result at h ⊢
  obtain ⟨taken, left⟩ := result
  cases taken with
  | nil => cases h
  | cons digit taken =>
      cases h
      rfl

/-- A whole part is taken as before. -/
theorem takeWhole_append {input more rest : Bytes} {digits : List Nat}
    (h : takeWhole input = some (digits, more)) (hrest : EndsDigits rest) :
    takeWhole (input ++ rest) = some (digits, more ++ rest) := by
  cases input with
  | nil => cases h
  | cons byte input =>
      rw [takeWhole] at h
      rw [List.cons_append, takeWhole]
      split at h
      · next hzero =>
          cases h
          rw [if_pos hzero]
      · next hzero =>
          rw [if_neg hzero]
          exact takeSomeDigits_append h hrest

/-- A fraction, or that there is none, is taken as before. -/
theorem takeFraction_append {input more rest : Bytes} {fraction : Option (List Nat)}
    (h : takeFraction input = some (fraction, more)) (hrest : EndsNumeral rest) :
    takeFraction (input ++ rest) = some (fraction, more ++ rest) := by
  cases input with
  | nil =>
      cases h
      cases rest with
      | nil => rfl
      | cons byte rest => simp [takeFraction, (hrest byte rest rfl).2.1]
  | cons byte input =>
      rw [takeFraction] at h
      rw [List.cons_append, takeFraction]
      split at h
      · next hpoint =>
          obtain ⟨⟨digits, left⟩, hdigits, heq⟩ := Option.map_eq_some_iff.1 h
          cases heq
          rw [if_pos hpoint, takeSomeDigits_append hdigits hrest.endsDigits]
          rfl
      · next hpoint =>
          cases h
          rw [if_neg hpoint]
          rfl

/-- An exponent part, or that there is none, is taken as before. -/
theorem takeExponent_append {input more rest : Bytes} {part : Option ExponentPart}
    (h : takeExponent input = some (part, more)) (hrest : EndsNumeral rest) :
    takeExponent (input ++ rest) = some (part, more ++ rest) := by
  cases input with
  | nil =>
      cases h
      cases rest with
      | nil => rfl
      | cons byte rest =>
          obtain ⟨_, _, hlower, hupper⟩ := hrest byte rest rfl
          simp [takeExponent, hlower, hupper]
  | cons byte input =>
      rw [takeExponent] at h
      rw [List.cons_append, takeExponent]
      split at h
      · next hmark =>
          rw [if_pos hmark]
          cases input with
          | nil => cases h
          | cons sign input =>
              have hsign : takeExponentSign (sign :: input ++ rest) =
                  ((takeExponentSign (sign :: input)).1,
                    (takeExponentSign (sign :: input)).2 ++ rest) := by
                rw [List.cons_append, takeExponentSign, takeExponentSign]
                split
                · rfl
                · split <;> rfl
              rw [hsign]
              generalize takeExponentSign (sign :: input) = signed at h ⊢
              obtain ⟨negative, left⟩ := signed
              obtain ⟨⟨digits, last⟩, hdigits, heq⟩ := Option.map_eq_some_iff.1 h
              cases heq
              simp [takeSomeDigits_append hdigits hrest.endsDigits]
      · next hmark =>
          cases h
          rw [if_neg hmark]
          rfl

/-- The parts of a numeral are taken one after the other. -/
theorem takeNumeral_eq_some_iff (negative : Bool) (input more : Bytes) (token : Token) :
    takeNumeral negative input = some (token, more) ↔
      ∃ whole afterWhole fraction afterFraction part, takeWhole input = some (whole, afterWhole) ∧
        takeFraction afterWhole = some (fraction, afterFraction) ∧
        takeExponent afterFraction = some (part, more) ∧
        token = .number ⟨negative, whole, fraction, part⟩ := by
  simp only [takeNumeral, Option.bind_eq_bind, Option.bind_eq_some_iff, Option.pure_def,
    Option.some.injEq, Prod.mk.injEq, Prod.exists]
  constructor
  · rintro ⟨whole, afterWhole, hwhole, fraction, afterFraction, hfraction, part, _, hpart, rfl,
      rfl⟩
    exact ⟨whole, afterWhole, fraction, afterFraction, part, hwhole, hfraction, hpart, rfl⟩
  · rintro ⟨whole, afterWhole, fraction, afterFraction, part, hwhole, hfraction, hpart, rfl⟩
    exact ⟨whole, afterWhole, hwhole, fraction, afterFraction, hfraction, part, more, hpart, rfl,
      rfl⟩

/-- A numeral is taken as before where the input behind it cannot go on it. -/
theorem takeNumeral_append {negative : Bool} {input more rest : Bytes} {token : Token}
    (h : takeNumeral negative input = some (token, more)) (hrest : EndsNumeral rest) :
    takeNumeral negative (input ++ rest) = some (token, more ++ rest) := by
  rw [takeNumeral_eq_some_iff] at h ⊢
  obtain ⟨whole, afterWhole, fraction, afterFraction, part, hwhole, hfraction, hpart, htoken⟩ := h
  exact ⟨whole, _, fraction, _, part, takeWhole_append hwhole hrest.endsDigits,
    takeFraction_append hfraction hrest, takeExponent_append hpart hrest, htoken⟩

/-! ## What is left of the input -/

/-- Digits leave an end of the input. -/
theorem takeDigits_suffix (input : Bytes) : (takeDigits input).2 <:+ input := by
  induction input with
  | nil => exact List.suffix_refl []
  | cons byte input ih =>
      rw [takeDigits]
      cases digit? byte with
      | none => exact List.suffix_refl _
      | some digit => exact ih.trans (List.suffix_cons byte input)

/-- Digits that are there leave an end of the input. -/
theorem takeSomeDigits_suffix {input more : Bytes} {digits : List Nat}
    (h : takeSomeDigits input = some (digits, more)) : more <:+ input := by
  have hsuffix := takeDigits_suffix input
  unfold takeSomeDigits at h
  split at h
  · cases h
  · next heq =>
      cases h
      rwa [heq] at hsuffix

/-- A whole part leaves an end of the input. -/
theorem takeWhole_suffix {input more : Bytes} {digits : List Nat}
    (h : takeWhole input = some (digits, more)) : more <:+ input := by
  cases input with
  | nil => cases h
  | cons byte input =>
      rw [takeWhole] at h
      split at h
      · cases h
        exact List.suffix_cons byte _
      · exact takeSomeDigits_suffix h

/-- A fraction leaves an end of the input. -/
theorem takeFraction_suffix {input more : Bytes} {fraction : Option (List Nat)}
    (h : takeFraction input = some (fraction, more)) : more <:+ input := by
  cases input with
  | nil =>
      cases h
      exact List.suffix_refl []
  | cons byte input =>
      rw [takeFraction] at h
      split at h
      · obtain ⟨⟨digits, left⟩, hdigits, heq⟩ := Option.map_eq_some_iff.1 h
        cases heq
        exact (takeSomeDigits_suffix hdigits).trans (List.suffix_cons byte input)
      · cases h
        exact List.suffix_refl _

/-- The sign of an exponent leaves an end of the input. -/
theorem takeExponentSign_suffix (input : Bytes) : (takeExponentSign input).2 <:+ input := by
  cases input with
  | nil => exact List.suffix_refl []
  | cons byte input =>
      rw [takeExponentSign]
      split
      · exact List.suffix_cons byte input
      · split
        · exact List.suffix_cons byte input
        · exact List.suffix_refl _

/-- An exponent part leaves an end of the input. -/
theorem takeExponent_suffix {input more : Bytes} {part : Option ExponentPart}
    (h : takeExponent input = some (part, more)) : more <:+ input := by
  cases input with
  | nil =>
      cases h
      exact List.suffix_refl []
  | cons byte input =>
      rw [takeExponent] at h
      split at h
      · obtain ⟨⟨digits, left⟩, hdigits, heq⟩ := Option.map_eq_some_iff.1 h
        cases heq
        exact (takeSomeDigits_suffix hdigits).trans
          ((takeExponentSign_suffix input).trans (List.suffix_cons byte input))
      · cases h
        exact List.suffix_refl _

/-- A numeral leaves an end of the input. -/
theorem takeNumeral_suffix {negative : Bool} {input more : Bytes} {token : Token}
    (h : takeNumeral negative input = some (token, more)) : more <:+ input := by
  obtain ⟨_, _, _, _, _, hwhole, hfraction, hpart, _⟩ := (takeNumeral_eq_some_iff _ _ _ _).1 h
  exact (takeExponent_suffix hpart).trans
    ((takeFraction_suffix hfraction).trans (takeWhole_suffix hwhole))

/-! ## The characters of written numbers -/

/-- The character can be part of a written number. -/
def InNumber (character : Char) : Prop :=
  character.isDigit = true ∨ character = '-' ∨ character = '+' ∨ character = '.' ∨ character = 'e'

/-- The digits of a number are part of its text. -/
theorem inNumber_of_mem_toDigits {value : Nat} {character : Char}
    (h : character ∈ Nat.toDigits 10 value) : InNumber character :=
  .inl (Nat.isDigit_of_mem_toDigits (by decide) (by decide) h)

/-- The digits of a decimal are part of its text. -/
theorem inNumber_of_mem_digits {decimal : Decimal.Scaled} {character : Char}
    (h : character ∈ decimal.digits.1) : InNumber character := by
  apply inNumber_of_mem_toDigits
  exact List.mem_reverse.1 ((List.dropWhile_suffix _).subset (List.mem_reverse.1 h))

/-- A decimal is written with digits, signs, points and exponent marks. -/
theorem inNumber_of_mem_layout {decimal : Decimal.Scaled} {character : Char}
    (h : character ∈ Number.layout.write decimal) : InNumber character := by
  have hdigits : ∀ digit ∈ decimal.digits.1, InNumber digit := fun digit hdigit =>
    inNumber_of_mem_digits hdigit
  have hzero : InNumber '0' := .inl rfl
  have hpoint : InNumber '.' := .inr (.inr (.inr (.inl rfl)))
  unfold Decimal.Layout.write at h
  generalize decimal.digits = written at h hdigits
  obtain ⟨digits, leading⟩ := written
  dsimp only at h hdigits
  split at h
  · simp only [List.append_assoc, List.mem_append, List.cons_append, List.mem_cons] at h
    rcases h with h | h | rfl | h | h
    · exact hdigits _ (List.mem_of_mem_take h)
    · split at h
      · cases h
      · rcases List.mem_cons.1 h with rfl | h
        · exact hpoint
        · exact hdigits _ (List.mem_of_mem_drop h)
    · exact .inr (.inr (.inr (.inr rfl)))
    · split at h
      · rw [List.mem_singleton.1 h]
        exact .inr (.inl rfl)
      · split at h
        · rw [List.mem_singleton.1 h]
          exact .inr (.inr (.inl rfl))
        · cases h
    · exact inNumber_of_mem_toDigits h
  · split at h
    · simp only [List.mem_cons, List.mem_append] at h
      rcases h with (rfl | rfl | h) | h
      · exact hzero
      · exact hpoint
      · rw [(List.mem_replicate.1 h).2]
        exact hzero
      · exact hdigits _ h
    · simp only [List.mem_append, List.append_assoc, List.mem_cons] at h
      rcases h with h | h | rfl | h
      · exact hdigits _ (List.mem_of_mem_take h)
      · rw [(List.mem_replicate.1 h).2]
        exact hzero
      · exact hpoint
      · split at h
        · rw [List.mem_singleton.1 h]
          exact hzero
        · exact hdigits _ (List.mem_of_mem_drop h)

/-- A number is written with digits, signs, points and exponent marks. -/
theorem inNumber_of_mem_write {number : Number} {character : Char}
    (h : character ∈ number.write) : InNumber character := by
  have hsign : ∀ negative : Prop, [Decidable negative] →
      character ∈ (if negative then ['-'] else []) → InNumber character := by
    intro negative _ hmem
    split at hmem
    · rw [List.mem_singleton.1 hmem]
      exact .inr (.inl rfl)
    · cases hmem
  cases number with
  | integer value =>
      rcases List.mem_append.1 h with hmem | hmem
      · exact hsign _ hmem
      · exact inNumber_of_mem_toDigits hmem
  | binary value =>
      rcases List.mem_append.1 h with hmem | hmem
      · exact hsign _ hmem
      · split at hmem
        · simp only [List.mem_cons, List.not_mem_nil, or_false] at hmem
          rcases hmem with rfl | rfl | rfl
          · exact .inl rfl
          · exact .inr (.inr (.inr (.inl rfl)))
          · exact .inl rfl
        · exact inNumber_of_mem_layout hmem

/-- A character of a number is one byte, no blank, and begins a numeral or nothing. -/
theorem byte_of_inNumber {character : Char} (h : InNumber character) :
    ∃ byte, Bytes.ofChar character = [byte] ∧ isBlankByte byte = false ∧ byte ≠ 0x5D ∧
      ∀ rest, takeToken byte rest =
        if byte = 0x2D then takeNumeral true rest else takeNumeral false (byte :: rest) := by
  rcases h with hdigit | rfl | rfl | rfl | rfl
  · obtain ⟨byte, hbyte, _, hvalue⟩ := digit_reads hdigit
    obtain ⟨hlow, hhigh⟩ := bounds_of_digit hvalue
    have hne : ∀ other : UInt8, other.toNat < 0x30 ∨ 0x39 < other.toNat → byte ≠ other := by
      rintro other hother rfl
      omega
    refine ⟨byte, hbyte, (takeToken_digit hvalue []).1, hne 0x5D (by decide), fun rest => ?_⟩
    rw [if_neg (hne 0x2D (by decide)), (takeToken_digit hvalue rest).2]
  · exact ⟨0x2D, rfl, rfl, by decide, fun _ => rfl⟩
  · exact ⟨0x2B, rfl, rfl, by decide, fun _ => rfl⟩
  · exact ⟨0x2E, rfl, rfl, by decide, fun _ => rfl⟩
  · exact ⟨0x65, rfl, rfl, by decide, fun _ => rfl⟩

/-! ## Numbers that read back -/

/-- Only blanks are read as no token. -/
theorem isBlankByte_of_tokensWithin {fuel : Nat} {input : Bytes}
    (h : tokensWithin fuel input = some []) : ∀ byte ∈ input, isBlankByte byte = true := by
  induction fuel generalizing input with
  | zero =>
      cases input with
      | nil => exact fun _ hmem => by cases hmem
      | cons byte input => cases h
  | succ fuel ih =>
      cases input with
      | nil => exact fun _ hmem => by cases hmem
      | cons byte input =>
          rw [tokensWithin] at h
          split at h
          · next hblank =>
              intro other hmem
              rcases List.mem_cons.1 hmem with rfl | hmem
              · exact hblank
              · exact ih h other hmem
          · simp [Option.bind_eq_some_iff] at h

/-- A text that is read as a number is read as one numeral that denotes the number. -/
theorem read_number_eq_ok {input : Bytes} {number : Number} (h : read input = .ok (.number number)) :
    ∃ numeral, Tree.read input = some (.number numeral) ∧ numeral.number? = some number := by
  unfold read at h
  split at h
  · next value hvalue =>
      cases h
      obtain ⟨tree, htree, heval⟩ := Option.bind_eq_some_iff.1 hvalue
      cases tree with
      | number numeral =>
          obtain ⟨denoted, hdenoted, heq⟩ := Option.map_eq_some_iff.1 heval
          cases heq
          exact ⟨numeral, htree, hdenoted⟩
      | null => cases heval
      | boolean value => cases heval
      | string pieces =>
          obtain ⟨_, _, heq⟩ := Option.map_eq_some_iff.1 heval
          cases heq
      | array items =>
          obtain ⟨_, _, heq⟩ := Option.map_eq_some_iff.1 heval
          cases heq
      | object members =>
          obtain ⟨_, _, heq⟩ := Option.map_eq_some_iff.1 heval
          cases heq
  · cases h

/-- A document that begins with a numeral consists of that numeral. -/
theorem tokens_of_read_number {input : Bytes} {numeral : Numeral} {token : Token}
    {more : List Token} (htokens : tokens input = some (token :: more))
    (hread : Tree.read input = some (.number numeral)) (hnumeral : ∃ first, token = .number first) :
    token = .number numeral ∧ more = [] := by
  obtain ⟨first, rfl⟩ := hnumeral
  rw [Tree.read, htokens] at hread
  cases more with
  | nil =>
      simp only [Expectation.run, Expectation.next, Expectation.takeValue, Option.bind_eq_bind,
        Option.bind_some, List.foldlM_cons, List.foldlM_nil, Option.pure_def, Option.some.injEq,
        Tree.number.injEq] at hread
      exact ⟨by rw [hread], rfl⟩
  | cons second more =>
      -- Nothing may come after a value that stands alone.
      have hnone : Expectation.run (.beforeValue []) (.number first :: second :: more) = none := rfl
      rw [Option.bind_eq_bind, Option.bind_some, hnone] at hread
      cases hread

/-- What begins like a number is taken as a numeral, which leaves an end of the input and is taken
wherever it stands. -/
theorem takeToken_numeral {byte : UInt8} {written more : Bytes} {token : Token}
    (hbyte : ∀ rest, takeToken byte rest =
      if byte = 0x2D then takeNumeral true rest else takeNumeral false (byte :: rest))
    (h : takeToken byte written = some (token, more)) :
    (∃ numeral, token = .number numeral) ∧ more <:+ byte :: written ∧
      ∀ rest, EndsNumeral rest →
        takeToken byte (written ++ rest) = some (token, more ++ rest) := by
  have hnumeral : ∀ negative input, takeNumeral negative input = some (token, more) →
      ∃ numeral, token = .number numeral := by
    intro negative input htaken
    obtain ⟨_, _, _, _, _, _, _, _, htoken⟩ := (takeNumeral_eq_some_iff _ _ _ _).1 htaken
    exact ⟨_, htoken⟩
  rw [hbyte] at h
  simp only [hbyte]
  split at h
  · next hsign =>
      simp only [hsign, if_true]
      exact ⟨hnumeral _ _ h, (takeNumeral_suffix h).trans (List.suffix_cons _ written),
        fun rest hrest => takeNumeral_append h hrest⟩
  · next hsign =>
      simp only [hsign, if_false]
      exact ⟨hnumeral _ _ h, takeNumeral_suffix h, fun rest hrest => takeNumeral_append h hrest⟩

/-- A written number that is read back as a text of its own is taken as one numeral, which denotes
the number, wherever it stands. -/
theorem takeToken_of_readText {number : Number}
    (h : readText (Value.number number).text = .ok (.number number)) :
    ∃ byte written numeral, number.write.flatMap Bytes.ofChar = byte :: written ∧
      isBlankByte byte = false ∧ byte ≠ 0x5D ∧ numeral.number? = some number ∧
      ∀ rest, EndsNumeral rest →
        takeToken byte (written ++ rest) = some (.number numeral, rest) := by
  have hbytes : Bytes.ofText (Value.number number).text = number.write.flatMap Bytes.ofChar := by
    rw [Bytes.ofText, Value.text, String.toList_ofList, Value.write]
  rw [readText, hbytes] at h
  obtain ⟨numeral, hread, hnumber⟩ := read_number_eq_ok h
  have hall : ∀ character ∈ number.write, InNumber character := fun _ hmem =>
    inNumber_of_mem_write hmem
  have hplain : ∀ byte ∈ number.write.flatMap Bytes.ofChar, isBlankByte byte = false := by
    intro byte hmem
    obtain ⟨character, hcharacter, hbyte⟩ := List.mem_flatMap.1 hmem
    obtain ⟨only, honly, hblank, _⟩ := byte_of_inNumber (hall character hcharacter)
    rw [honly, List.mem_singleton] at hbyte
    rwa [hbyte]
  cases hwrite : number.write with
  | nil =>
      rw [hwrite] at hread
      cases hread
  | cons first characters =>
      obtain ⟨byte, hbyte, hblank, hclose, htake⟩ :=
        byte_of_inNumber (hall first (hwrite ▸ List.mem_cons_self))
      rw [hwrite, List.flatMap_cons, hbyte] at hread hplain
      refine ⟨byte, characters.flatMap Bytes.ofChar, numeral, by rw [List.flatMap_cons, hbyte]; rfl,
        hblank, hclose, hnumber, ?_⟩
      generalize characters.flatMap Bytes.ofChar = written at hread hplain ⊢
      -- The first token is a numeral, and only blanks could be left behind it.
      cases htokens : tokens (byte :: written) with
      | none =>
          rw [List.singleton_append, Tree.read, htokens] at hread
          cases hread
      | some all =>
          have hwithin := htokens
          rw [tokens, List.length_cons, tokensWithin, hblank, if_neg Bool.false_ne_true] at hwithin
          simp only [Option.bind_eq_bind, Option.bind_eq_some_iff, Option.pure_def,
            Option.some.injEq, Prod.exists] at hwithin
          obtain ⟨token, left, htoken, more, hmore, rfl⟩ := hwithin
          obtain ⟨hnumeral, hsuffix, happend⟩ := takeToken_numeral htake htoken
          obtain ⟨rfl, rfl⟩ := tokens_of_read_number htokens hread hnumeral
          have hnothing : left = [] := by
            rw [List.eq_nil_iff_forall_not_mem]
            intro other hmem
            have hno := hplain other (hsuffix.subset hmem)
            rw [isBlankByte_of_tokensWithin hmore other hmem] at hno
            cases hno
          rw [hnothing] at happend
          exact happend

end CloudCredentials.Json
