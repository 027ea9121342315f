import CloudCredentials.Proofs.Json.Numerals
import CloudCredentials.Proofs.Json.Strings
import Mathlib.Logic.Basic

/-!
# How tokens are spelled

A mark or a word has one spelling; a string has one for each choice of escapes, and a numeral one
for each choice of its exponent mark and of a plus sign. `Token.Spelled` says which bytes spell a
token. What is taken off the input as a token is spelled there, `spelled_of_takeToken`, and a token
that is spelled is taken, `takeToken_of_spelled`, unless it is a numeral that the input goes on.
-/

namespace CloudCredentials.Json

/-! ## Numerals -/

/-- The bytes are these decimal digits. -/
def SpellsDigits (digits : List Nat) (written : Bytes) : Prop :=
  written.map digit? = digits.map some

/-- The bytes are the digits before a point. A zero stands alone. -/
structure SpellsWhole (digits : List Nat) (written : Bytes) : Prop where
  spells : SpellsDigits digits written
  ne_nil : digits ≠ []
  zero_alone (h : digits.head? = some 0) : digits = [0]

/-- The bytes are a point and the digits after it, or nothing. -/
inductive SpellsFraction : Option (List Nat) → Bytes → Prop where
  | absent : SpellsFraction none []
  | present (digits : List Nat) (written : Bytes) (hdigits : SpellsDigits digits written)
      (hne : digits ≠ []) : SpellsFraction (some digits) (0x2E :: written)

/-- The bytes are the sign of an exponent. A plus sign may be left out. -/
inductive SpellsSign : Bool → Bytes → Prop where
  | minus : SpellsSign true [0x2D]
  | plus : SpellsSign false [0x2B]
  | unsigned : SpellsSign false []

/-- The bytes are an exponent part, or nothing. -/
inductive SpellsExponent : Option ExponentPart → Bytes → Prop where
  | absent : SpellsExponent none []
  | present (mark : UInt8) (hmark : mark = 0x65 ∨ mark = 0x45) (negative : Bool) (sign : Bytes)
      (hsign : SpellsSign negative sign) (digits : List Nat) (written : Bytes)
      (hdigits : SpellsDigits digits written) (hne : digits ≠ []) :
      SpellsExponent (some ⟨negative, digits⟩) (mark :: (sign ++ written))

/-- The bytes are a numeral. -/
def Numeral.Spelled (numeral : Numeral) (written : Bytes) : Prop :=
  ∃ whole fraction exponent, SpellsWhole numeral.whole whole ∧
    SpellsFraction numeral.fraction fraction ∧ SpellsExponent numeral.exponentPart exponent ∧
    written = (if numeral.negative then [0x2D] else []) ++ (whole ++ (fraction ++ exponent))

/-- The first of some digits is the digit of the first byte. -/
theorem SpellsDigits.eq_cons {digit : Nat} {digits : List Nat} {written : Bytes}
    (h : SpellsDigits (digit :: digits) written) :
    ∃ byte more, written = byte :: more ∧ digit? byte = some digit ∧ SpellsDigits digits more := by
  cases written with
  | nil => cases h
  | cons byte more =>
      obtain ⟨hbyte, hmore⟩ := List.cons.inj h
      exact ⟨byte, more, rfl, hbyte, hmore⟩

/-- Digits that are spelled are taken. -/
theorem SpellsDigits.takeDigits {digits : List Nat} {written : Bytes}
    (h : SpellsDigits digits written) : Json.takeDigits written = (digits, []) := by
  induction digits generalizing written with
  | nil =>
      obtain rfl := List.map_eq_nil_iff.1 h
      rfl
  | cons digit digits ih =>
      obtain ⟨byte, more, rfl, hbyte, hmore⟩ := h.eq_cons
      rw [Json.takeDigits, hbyte, ih hmore]

/-- Some digits that are spelled are taken. -/
theorem SpellsDigits.takeSomeDigits {digits : List Nat} {written : Bytes}
    (h : SpellsDigits digits written) (hne : digits ≠ []) :
    Json.takeSomeDigits written = some (digits, []) := by
  rw [Json.takeSomeDigits, h.takeDigits]
  cases digits with
  | nil => exact absurd rfl hne
  | cons digit digits => rfl

/-- Digits that are taken are spelled. -/
theorem spells_takeDigits (input : Bytes) :
    ∃ written, input = written ++ (takeDigits input).2 ∧
      SpellsDigits (takeDigits input).1 written := by
  induction input with
  | nil => exact ⟨[], rfl, rfl⟩
  | cons byte input ih =>
      obtain ⟨written, hinput, hdigits⟩ := ih
      rw [takeDigits]
      cases hbyte : digit? byte with
      | none => exact ⟨[], rfl, rfl⟩
      | some digit =>
          refine ⟨byte :: written, congrArg (byte :: ·) hinput, ?_⟩
          rw [SpellsDigits, List.map_cons, List.map_cons, hbyte, hdigits]

/-- Some digits that are taken are spelled. -/
theorem spells_of_takeSomeDigits {input more : Bytes} {digits : List Nat}
    (h : takeSomeDigits input = some (digits, more)) :
    ∃ written, input = written ++ more ∧ SpellsDigits digits written ∧ digits ≠ [] := by
  obtain ⟨written, hinput, hdigits⟩ := spells_takeDigits input
  unfold takeSomeDigits at h
  split at h
  · cases h
  · next hne heq =>
      cases h
      rw [heq] at hinput hdigits
      exact ⟨written, hinput, hdigits, hne⟩

/-- Zero is one byte as a digit. -/
theorem digit?_eq_some_zero_iff (byte : UInt8) : digit? byte = some 0 ↔ byte = 0x30 := by
  constructor
  · intro h
    obtain ⟨hlow, _⟩ := bounds_of_digit h
    unfold digit? at h
    split at h
    · have hzero : byte.toNat = (0x30 : UInt8).toNat :=
        Nat.le_antisymm (Nat.le_of_sub_eq_zero (Option.some.inj h)) hlow
      exact UInt8.toNat_inj.1 hzero
    · cases h
  · rintro rfl
    rfl

/-- The digits before a point are taken if they are spelled. -/
theorem SpellsWhole.takeWhole {digits : List Nat} {written : Bytes}
    (h : SpellsWhole digits written) : Json.takeWhole written = some (digits, []) := by
  obtain ⟨hdigits, hne, hzero⟩ := h
  cases digits with
  | nil => exact absurd rfl hne
  | cons digit digits =>
      have hsome := hdigits.takeSomeDigits hne
      obtain ⟨byte, more, rfl, hbyte, hmore⟩ := hdigits.eq_cons
      rw [Json.takeWhole]
      split
      · next hmark =>
          rw [beq_iff_eq, ← digit?_eq_some_zero_iff, hbyte] at hmark
          -- A zero stands alone, so nothing is left.
          obtain ⟨rfl, rfl⟩ := List.cons.inj (hzero hmark)
          obtain rfl := List.map_eq_nil_iff.1 hmore
          rfl
      · exact hsome

/-- The digits before a point are spelled if they are taken. -/
theorem spells_of_takeWhole {input more : Bytes} {digits : List Nat}
    (h : takeWhole input = some (digits, more)) :
    ∃ written, input = written ++ more ∧ SpellsWhole digits written := by
  cases input with
  | nil => cases h
  | cons byte input =>
      rw [takeWhole] at h
      split at h
      · next hzero =>
          cases h
          rw [beq_iff_eq.1 hzero]
          exact ⟨[0x30], rfl, rfl, List.cons_ne_nil _ _, fun _ => rfl⟩
      · next hzero =>
          obtain ⟨written, hinput, hdigits, hne⟩ := spells_of_takeSomeDigits h
          refine ⟨written, hinput, hdigits, hne, fun hhead => absurd ?_ hzero⟩
          cases digits with
          | nil => cases hhead
          | cons digit digits =>
              obtain ⟨first, rest, rfl, hfirst, _⟩ := hdigits.eq_cons
              rw [(List.cons.inj hinput).1, beq_iff_eq, ← digit?_eq_some_zero_iff, hfirst]
              exact hhead

/-- A fraction is spelled if it is taken. -/
theorem spells_of_takeFraction {input more : Bytes} {fraction : Option (List Nat)}
    (h : takeFraction input = some (fraction, more)) :
    ∃ written, input = written ++ more ∧ SpellsFraction fraction written := by
  cases input with
  | nil =>
      cases h
      exact ⟨[], rfl, .absent⟩
  | cons byte input =>
      rw [takeFraction] at h
      split at h
      · next hpoint =>
          obtain ⟨⟨digits, left⟩, hdigits, heq⟩ := Option.map_eq_some_iff.1 h
          cases heq
          obtain ⟨written, rfl, hspells, hne⟩ := spells_of_takeSomeDigits hdigits
          rw [beq_iff_eq.1 hpoint]
          exact ⟨0x2E :: written, rfl, .present digits written hspells hne⟩
      · cases h
        exact ⟨[], rfl, .absent⟩

/-- Digits do not begin with a sign. -/
theorem SpellsDigits.takeExponentSign {digits : List Nat} {written : Bytes}
    (h : SpellsDigits digits written) : Json.takeExponentSign written = (false, written) := by
  cases digits with
  | nil =>
      obtain rfl := List.map_eq_nil_iff.1 h
      rfl
  | cons digit digits =>
      obtain ⟨byte, more, rfl, hbyte, _⟩ := h.eq_cons
      have hminus : byte ≠ 0x2D := by
        rintro rfl
        cases hbyte
      have hplus : byte ≠ 0x2B := by
        rintro rfl
        cases hbyte
      simp [Json.takeExponentSign, hminus, hplus]

/-- A sign is taken off the digits of an exponent. -/
theorem SpellsSign.takeExponentSign {negative : Bool} {sign : Bytes} (h : SpellsSign negative sign)
    {digits : List Nat} {written : Bytes} (hdigits : SpellsDigits digits written) :
    Json.takeExponentSign (sign ++ written) = (negative, written) := by
  cases h with
  | minus => rfl
  | plus => rfl
  | unsigned => exact hdigits.takeExponentSign

/-- A sign that is taken is spelled. -/
theorem spells_takeExponentSign (input : Bytes) :
    ∃ sign, input = sign ++ (takeExponentSign input).2 ∧
      SpellsSign (takeExponentSign input).1 sign := by
  cases input with
  | nil => exact ⟨[], rfl, .unsigned⟩
  | cons byte input =>
      rw [takeExponentSign]
      split
      · next hminus =>
          rw [beq_iff_eq.1 hminus]
          exact ⟨[0x2D], rfl, .minus⟩
      · split
        · next hplus =>
            rw [beq_iff_eq.1 hplus]
            exact ⟨[0x2B], rfl, .plus⟩
        · exact ⟨[], rfl, .unsigned⟩

/-- An exponent part is taken if it is spelled. -/
theorem SpellsExponent.takeExponent {part : Option ExponentPart} {written : Bytes}
    (h : SpellsExponent part written) : Json.takeExponent written = some (part, []) := by
  cases h with
  | absent => rfl
  | present mark hmark negative sign hsign digits written hdigits hne =>
      rw [Json.takeExponent, if_pos (by simpa using hmark), hsign.takeExponentSign hdigits]
      simp only [hdigits.takeSomeDigits hne]
      rfl

/-- An exponent part is spelled if it is taken. -/
theorem spells_of_takeExponent {input more : Bytes} {part : Option ExponentPart}
    (h : takeExponent input = some (part, more)) :
    ∃ written, input = written ++ more ∧ SpellsExponent part written := by
  cases input with
  | nil =>
      cases h
      exact ⟨[], rfl, .absent⟩
  | cons byte input =>
      rw [takeExponent] at h
      split at h
      · next hmark =>
          obtain ⟨sign, hsigned, hsign⟩ := spells_takeExponentSign input
          generalize takeExponentSign input = taken at h hsigned hsign
          obtain ⟨negative, unsigned⟩ := taken
          obtain ⟨⟨digits, left⟩, hdigits, heq⟩ := Option.map_eq_some_iff.1 h
          cases heq
          obtain ⟨written, rfl, hspells, hne⟩ := spells_of_takeSomeDigits hdigits
          refine ⟨byte :: (sign ++ written), ?_,
            .present byte (by simpa using hmark) _ sign hsign digits written hspells hne⟩
          rw [hsigned, List.cons_append, List.append_assoc]
      · cases h
        exact ⟨[], rfl, .absent⟩

/-- Nothing that may follow a numeral's digits begins with a digit. -/
theorem endsDigits_of_spells {fraction : Option (List Nat)} {part : Option ExponentPart}
    {written more : Bytes} (hfraction : SpellsFraction fraction written)
    (hexponent : SpellsExponent part more) : EndsDigits (written ++ more) := by
  rintro byte rest heq
  cases hfraction with
  | present digits written hdigits hne =>
      cases heq
      rfl
  | absent =>
      cases hexponent with
      | absent => cases heq
      | present mark hmark =>
          cases heq
          rcases hmark with rfl | rfl <;> rfl

/-- A fraction is taken up to an exponent part. -/
theorem SpellsFraction.takeFraction_append {fraction : Option (List Nat)}
    {part : Option ExponentPart} {written more : Bytes} (h : SpellsFraction fraction written)
    (hexponent : SpellsExponent part more) :
    Json.takeFraction (written ++ more) = some (fraction, more) := by
  cases h with
  | absent =>
      cases hexponent with
      | absent => rfl
      | present mark hmark => rcases hmark with rfl | rfl <;> rfl
  | present digits written hdigits hne =>
      have hends : EndsDigits more := endsDigits_of_spells .absent hexponent
      rw [List.cons_append, Json.takeFraction, if_pos (beq_self_eq_true _),
        takeSomeDigits_append (hdigits.takeSomeDigits hne) hends]
      rfl

/-- A numeral is taken, after its sign, if it is spelled. -/
theorem takeNumeral_of_spells {numeral : Numeral} {whole fraction exponent : Bytes}
    (hwhole : SpellsWhole numeral.whole whole)
    (hfraction : SpellsFraction numeral.fraction fraction)
    (hexponent : SpellsExponent numeral.exponentPart exponent) {rest : Bytes}
    (hrest : EndsNumeral rest) :
    takeNumeral numeral.negative (whole ++ (fraction ++ exponent) ++ rest) =
      some (.number numeral, rest) := by
  have halone : takeNumeral numeral.negative (whole ++ (fraction ++ exponent)) =
      some (.number numeral, []) := by
    rw [takeNumeral_eq_some_iff]
    exact ⟨numeral.whole, fraction ++ exponent, numeral.fraction, exponent, numeral.exponentPart,
      takeWhole_append hwhole.takeWhole (endsDigits_of_spells hfraction hexponent),
      hfraction.takeFraction_append hexponent, hexponent.takeExponent, rfl⟩
  exact takeNumeral_append halone hrest

/-- A numeral that is taken after its sign is spelled. -/
theorem spelled_of_takeNumeral {negative : Bool} {input more : Bytes} {token : Token}
    (h : takeNumeral negative input = some (token, more)) :
    ∃ numeral written, token = .number numeral ∧ numeral.Spelled written ∧
      (if negative then [0x2D] else []) ++ input = written ++ more := by
  obtain ⟨whole, afterWhole, fraction, afterFraction, part, hwhole, hfraction, hpart, rfl⟩ :=
    (takeNumeral_eq_some_iff _ _ _ _).1 h
  obtain ⟨first, rfl, hfirst⟩ := spells_of_takeWhole hwhole
  obtain ⟨second, rfl, hsecond⟩ := spells_of_takeFraction hfraction
  obtain ⟨third, rfl, hthird⟩ := spells_of_takeExponent hpart
  refine ⟨⟨negative, whole, fraction, part⟩, _, rfl, ⟨first, second, third, hfirst, hsecond, hthird,
    rfl⟩, ?_⟩
  simp only [List.append_assoc]

/-! ## Strings -/

/-- The bytes are the inside of a string with these pieces. What may not stand for itself is
escaped, and everything else may be. -/
inductive SpellsPieces : List Piece → Bytes → Prop where
  | nil : SpellsPieces [] []
  | plain (byte : UInt8) (hcontrol : ¬ byte < 0x20) (hquote : byte ≠ 0x22) (hescape : byte ≠ 0x5C)
      (pieces : List Piece) (written : Bytes) (hmore : SpellsPieces pieces written) :
      SpellsPieces (.byte byte :: pieces) (byte :: written)
  | escape (letter value : UInt8) (hletter : shortEscape? letter = some value)
      (pieces : List Piece) (written : Bytes) (hmore : SpellsPieces pieces written) :
      SpellsPieces (.byte value :: pieces) (0x5C :: letter :: written)
  | unit (first second third fourth : UInt8) (code : Nat)
      (hcode : codeUnit? first second third fourth = some code)
      (pieces : List Piece) (written : Bytes) (hmore : SpellsPieces pieces written) :
      SpellsPieces (.unit code :: pieces)
        (0x5C :: 0x75 :: first :: second :: third :: fourth :: written)

/-- A string is taken up to its closing quote if it is spelled. -/
theorem SpellsPieces.takeString {pieces : List Piece} {written : Bytes}
    (h : SpellsPieces pieces written) (rest : Bytes) :
    Json.takeString (written ++ 0x22 :: rest) = some (pieces, rest) := by
  induction h with
  | nil =>
      rw [List.nil_append, takeString.eq_def]
      rfl
  | plain byte hcontrol hquote hescape pieces written _ ih =>
      rw [List.cons_append, takeString_plain hquote hescape hcontrol, ih]
      rfl
  | escape letter value hletter pieces written _ ih =>
      rw [List.cons_append, List.cons_append, takeString_escape hletter, ih]
      rfl
  | unit first second third fourth code hcode pieces written _ ih =>
      simp only [List.cons_append]
      rw [takeString_unit hcode, ih]
      rfl

/-- A piece that is read in front of others comes before them. -/
theorem eq_cons_of_before {piece : Piece} {read : Option (List Piece × Bytes)}
    {pieces : List Piece} {more : Bytes}
    (h : (do return piece.before (← read)) = some (pieces, more)) :
    ∃ inner, read = some (inner, more) ∧ pieces = piece :: inner := by
  obtain ⟨⟨inner, left⟩, hread, heq⟩ := Option.bind_eq_some_iff.1 h
  cases heq
  exact ⟨inner, hread, rfl⟩

/-- A string is spelled if it is taken. -/
theorem spells_of_takeString {input more : Bytes} {pieces : List Piece}
    (h : takeString input = some (pieces, more)) :
    ∃ written, SpellsPieces pieces written ∧ input = written ++ 0x22 :: more := by
  fun_induction takeString input generalizing pieces with
  | case1 => cases h
  | case2 byte rest hquote =>
      cases h
      rw [beq_iff_eq.1 hquote]
      exact ⟨[], .nil, rfl⟩
  | case3 => cases h
  | case4 byte _ hescape letter hunit first second third fourth rest ih =>
      obtain ⟨code, hcode, hrest⟩ := Option.bind_eq_some_iff.1 h
      obtain ⟨inner, hread, rfl⟩ := eq_cons_of_before hrest
      obtain ⟨written, hspells, rfl⟩ := ih hread
      rw [beq_iff_eq.1 hescape, beq_iff_eq.1 hunit]
      exact ⟨_, .unit first second third fourth code hcode inner written hspells, rfl⟩
  | case5 => cases h
  | case6 byte _ hescape letter rest _ ih =>
      obtain ⟨value, hvalue, hrest⟩ := Option.bind_eq_some_iff.1 h
      obtain ⟨inner, hread, rfl⟩ := eq_cons_of_before hrest
      obtain ⟨written, hspells, rfl⟩ := ih hread
      rw [beq_iff_eq.1 hescape]
      exact ⟨_, .escape letter value hvalue inner written hspells, rfl⟩
  | case7 => cases h
  | case8 byte rest hquote hescape hcontrol ih =>
      obtain ⟨inner, hread, rfl⟩ := eq_cons_of_before h
      obtain ⟨written, hspells, rfl⟩ := ih hread
      exact ⟨_, .plain byte hcontrol (mt beq_iff_eq.2 hquote) (mt beq_iff_eq.2 hescape) inner
        written hspells, rfl⟩

/-! ## Tokens -/

/-- The spelling of a mark or a word. Numerals and strings have many. -/
def Token.fixed? : Token → Option Bytes
  | .openArray => some [0x5B]
  | .closeArray => some [0x5D]
  | .openObject => some [0x7B]
  | .closeObject => some [0x7D]
  | .comma => some [0x2C]
  | .colon => some [0x3A]
  | .null => some [0x6E, 0x75, 0x6C, 0x6C]
  | .boolean true => some [0x74, 0x72, 0x75, 0x65]
  | .boolean false => some [0x66, 0x61, 0x6C, 0x73, 0x65]
  | .number _ => none
  | .string _ => none

/-- The bytes are the token. -/
inductive Token.Spelled : Token → Bytes → Prop where
  | fixed (token : Token) (written : Bytes) (h : token.fixed? = some written) :
      Spelled token written
  | number (numeral : Numeral) (written : Bytes) (h : numeral.Spelled written) :
      Spelled (.number numeral) written
  | string (pieces : List Piece) (written : Bytes) (h : SpellsPieces pieces written) :
      Spelled (.string pieces) (0x22 :: (written ++ [0x22]))

/-- A word that is taken is spelled. -/
theorem spelled_of_word {wanted token : Token} {byte first : UInt8} {word rest more : Bytes}
    (hbyte : (byte == first) = true)
    (h : (Text.after? word rest).map (wanted, ·) = some (token, more))
    (hfixed : wanted.fixed? = some (first :: word)) :
    ∃ written, token.Spelled written ∧ byte :: rest = written ++ more := by
  obtain ⟨left, hafter, heq⟩ := Option.map_eq_some_iff.1 h
  cases heq
  rw [Text.after?_eq_some_iff] at hafter
  exact ⟨first :: word, .fixed _ _ hfixed, by rw [hafter, beq_iff_eq.1 hbyte, List.cons_append]⟩

/-- A mark that is taken is spelled. -/
theorem spelled_of_mark {wanted token : Token} {byte mark : UInt8} {rest more : Bytes}
    (hbyte : (byte == mark) = true) (h : some (wanted, rest) = some (token, more))
    (hfixed : wanted.fixed? = some [mark]) :
    ∃ written, token.Spelled written ∧ byte :: rest = written ++ more :=
  @spelled_of_word wanted token byte mark [] rest more hbyte h hfixed

/-- A token that is taken is spelled. -/
theorem spelled_of_takeToken {byte : UInt8} {rest more : Bytes} {token : Token}
    (h : takeToken byte rest = some (token, more)) :
    ∃ written, token.Spelled written ∧ byte :: rest = written ++ more := by
  have hnumeral : ∀ negative input, takeNumeral negative input = some (token, more) →
      (if negative then [0x2D] else []) ++ input = byte :: rest →
        ∃ written, token.Spelled written ∧ byte :: rest = written ++ more := by
    intro negative input htaken hinput
    obtain ⟨numeral, written, rfl, hspelled, heq⟩ := spelled_of_takeNumeral htaken
    exact ⟨written, .number numeral written hspelled, hinput.symm.trans heq⟩
  -- The cases are those of the reader: the six marks, a string, the three words and a numeral.
  unfold takeToken at h
  obtain ⟨hbyte, h⟩ | ⟨-, h⟩ := ite_eq_iff.1 h
  · exact spelled_of_mark hbyte h rfl
  obtain ⟨hbyte, h⟩ | ⟨-, h⟩ := ite_eq_iff.1 h
  · exact spelled_of_mark hbyte h rfl
  obtain ⟨hbyte, h⟩ | ⟨-, h⟩ := ite_eq_iff.1 h
  · exact spelled_of_mark hbyte h rfl
  obtain ⟨hbyte, h⟩ | ⟨-, h⟩ := ite_eq_iff.1 h
  · exact spelled_of_mark hbyte h rfl
  obtain ⟨hbyte, h⟩ | ⟨-, h⟩ := ite_eq_iff.1 h
  · exact spelled_of_mark hbyte h rfl
  obtain ⟨hbyte, h⟩ | ⟨-, h⟩ := ite_eq_iff.1 h
  · exact spelled_of_mark hbyte h rfl
  obtain ⟨hbyte, h⟩ | ⟨-, h⟩ := ite_eq_iff.1 h
  · obtain ⟨⟨pieces, left⟩, hstring, heq⟩ := Option.map_eq_some_iff.1 h
    cases heq
    obtain ⟨written, hspells, rfl⟩ := spells_of_takeString hstring
    rw [beq_iff_eq.1 hbyte]
    exact ⟨_, .string pieces written hspells, by simp⟩
  obtain ⟨hbyte, h⟩ | ⟨-, h⟩ := ite_eq_iff.1 h
  · exact spelled_of_word hbyte h rfl
  obtain ⟨hbyte, h⟩ | ⟨-, h⟩ := ite_eq_iff.1 h
  · exact spelled_of_word hbyte h rfl
  obtain ⟨hbyte, h⟩ | ⟨-, h⟩ := ite_eq_iff.1 h
  · exact spelled_of_word hbyte h rfl
  obtain ⟨hbyte, h⟩ | ⟨-, h⟩ := ite_eq_iff.1 h
  · exact hnumeral true rest h (by rw [beq_iff_eq.1 hbyte]; rfl)
  · exact hnumeral false (byte :: rest) h rfl

/-- The token is one that may stand behind a numeral. -/
def Token.EndsValue (token : Token) : Prop :=
  token = .comma ∨ token = .closeArray ∨ token = .closeObject

/-- A token that is spelled begins with what is no blank and is taken, unless it is a numeral that
the input goes on. -/
theorem takeToken_of_spelled {token : Token} {written : Bytes} (h : token.Spelled written)
    {rest : Bytes} (hrest : ∀ numeral, token = .number numeral → EndsNumeral rest) :
    ∃ byte more, written = byte :: more ∧ isBlankByte byte = false ∧
      takeToken byte (more ++ rest) = some (token, rest) := by
  cases h with
  | fixed token written h =>
      cases token with
      | number numeral => cases h
      | string pieces => cases h
      | boolean value =>
          cases value with
          | true =>
              cases h
              exact ⟨_, _, rfl, rfl, rfl⟩
          | false =>
              cases h
              exact ⟨_, _, rfl, rfl, rfl⟩
      | _ =>
          cases h
          exact ⟨_, _, rfl, rfl, rfl⟩
  | number numeral written h =>
      obtain ⟨whole, fraction, exponent, hwhole, hfraction, hexponent, rfl⟩ := h
      have htaken := takeNumeral_of_spells hwhole hfraction hexponent (hrest numeral rfl)
      cases hsign : numeral.negative with
      | true =>
          rw [hsign] at htaken
          exact ⟨0x2D, whole ++ (fraction ++ exponent), rfl, rfl, htaken⟩
      | false =>
          rw [hsign] at htaken
          obtain ⟨hdigits, hne, _⟩ := hwhole
          obtain ⟨digit, digits, hcons⟩ := List.exists_cons_of_ne_nil hne
          rw [hcons] at hdigits
          obtain ⟨byte, more, rfl, hbyte, _⟩ := hdigits.eq_cons
          refine ⟨byte, more ++ (fraction ++ exponent), rfl, (takeToken_digit hbyte []).1, ?_⟩
          rw [(takeToken_digit hbyte _).2]
          exact htaken
  | string pieces written h =>
      refine ⟨0x22, written ++ [0x22], rfl, rfl, ?_⟩
      have htaken := h.takeString rest
      rw [List.append_assoc, List.cons_append, List.nil_append]
      simp [takeToken, htaken]

end CloudCredentials.Json
