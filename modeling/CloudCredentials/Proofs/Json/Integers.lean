import CloudCredentials.Json.Token

/-!
# Written integers read back

An integer is written with its sign and its decimal digits. `takeToken_writeInteger` says that it is
taken as one numeral where no numeral could go on, and `number?_writtenNumeral` that the numeral
denotes the integer if that fits 64 bits.
-/

namespace CloudCredentials.Json

/-- The digits of a number. -/
def writtenDigits (value : Nat) : List Nat :=
  (Nat.toDigits 10 value).map fun digit => digit.toNat - 48

/-- The numeral as which a written integer is read. -/
def writtenNumeral (value : Int) : Numeral :=
  ⟨decide (value < 0), writtenDigits value.natAbs, none, none⟩

/-- The integer fits 64 bits, with or without a sign. -/
def FitsWord (value : Int) : Prop :=
  -0x8000000000000000 ≤ value ∧ value ≤ greatestWord

/-- The input cannot go on a numeral. -/
def EndsNumeral (input : Bytes) : Prop :=
  ∀ byte rest, input = byte :: rest →
    digit? byte = none ∧ byte ≠ 0x2E ∧ byte ≠ 0x65 ∧ byte ≠ 0x45

/-- A decimal digit is a byte with the value of the digit. -/
theorem digit_reads {digit : Char} (h : digit.isDigit = true) :
    ∃ byte, Bytes.ofChar digit = [byte] ∧ byte.toNat = digit.toNat ∧
      digit? byte = some (digit.toNat - 48) := by
  have hall : ∀ code < 0x80, (Char.ofNat code).isDigit = true →
      digit? (UInt8.ofNat code) = some (code - 48) := by decide
  have hascii : digit.toNat < 0x80 := by
    simp only [Char.isDigit, Bool.and_eq_true, decide_eq_true_eq, ge_iff_le, UInt32.le_iff_toNat_le]
      at h
    exact Nat.lt_of_le_of_lt h.2 (by decide)
  have hvalue := hall digit.toNat hascii
  rw [Char.ofNat_toNat] at hvalue
  have hbyte : (UInt8.ofNat digit.toNat).toNat = digit.toNat :=
    UInt8.toNat_ofNat_of_lt' (Nat.lt_trans hascii (by decide))
  exact ⟨_, Bytes.ofChar_of_ascii hascii, hbyte, hvalue h⟩

/-- Digits are taken up to what is no digit. -/
theorem takeDigits_append {digits : List Char} (h : ∀ digit ∈ digits, digit.isDigit = true)
    {rest : Bytes} (hrest : EndsNumeral rest) :
    takeDigits (digits.flatMap Bytes.ofChar ++ rest) =
      (digits.map fun digit => digit.toNat - 48, rest) := by
  induction digits with
  | nil =>
      cases rest with
      | nil => rfl
      | cons byte rest =>
          rw [List.flatMap_nil, List.nil_append, takeDigits, (hrest byte rest rfl).1]
          rfl
  | cons digit digits ih =>
      obtain ⟨byte, hbyte, _, hvalue⟩ := digit_reads (h digit List.mem_cons_self)
      rw [List.flatMap_cons, hbyte, List.cons_append, List.nil_append, List.cons_append, takeDigits,
        hvalue, ih fun other hother => h other (List.mem_cons_of_mem _ hother)]
      rfl

/-- Every number has a first digit, and only zero begins with a zero. -/
theorem toDigits_eq_cons (value : Nat) :
    ∃ first more, Nat.toDigits 10 value = first :: more ∧ (first = '0' → value = 0) := by
  induction value using Nat.base_induction 10 (by decide) with
  | single value hvalue =>
      refine ⟨value.digitChar, [], Nat.toDigits_of_lt_base hvalue, ?_⟩
      have hall : ∀ value < 10, value.digitChar = '0' → value = 0 := by decide
      exact hall value hvalue
  | digit value last hlast hvalue ih =>
      obtain ⟨first, more, hdigits, hzero⟩ := ih
      refine ⟨first, more ++ Nat.toDigits 10 last, ?_, fun heq => absurd (hzero heq) (by omega)⟩
      rw [← Nat.toDigits_append_toDigits (by decide) hvalue hlast, hdigits, List.cons_append]

/-- The digits of a number are taken as its whole part. -/
theorem takeWhole_toDigits (value : Nat) {rest : Bytes} (hrest : EndsNumeral rest) :
    takeWhole ((Nat.toDigits 10 value).flatMap Bytes.ofChar ++ rest) =
      some (writtenDigits value, rest) := by
  obtain ⟨first, more, hdigits, hzero⟩ := toDigits_eq_cons value
  have hall : ∀ digit ∈ Nat.toDigits 10 value, digit.isDigit = true := fun digit hdigit =>
    Nat.isDigit_of_mem_toDigits (by decide) (by decide) hdigit
  -- A leading zero is a whole part of its own, and only zero has one.
  by_cases hfirst : first = '0'
  · rw [hzero hfirst]
    rfl
  · have htaken := takeDigits_append hall hrest
    obtain ⟨byte, hbyte, hcode, _⟩ := digit_reads (hall first (hdigits ▸ List.mem_cons_self))
    have hne : (byte == 0x30) = false := by
      rw [beq_eq_false_iff_ne]
      intro heq
      exact hfirst (Char.toNat_inj.1 (hcode.symm.trans (congrArg UInt8.toNat heq)))
    rw [writtenDigits]
    rw [hdigits, List.flatMap_cons, hbyte] at htaken ⊢
    simp only [List.cons_append, List.nil_append] at htaken ⊢
    rw [takeWhole, hne, if_neg Bool.false_ne_true, takeSomeDigits, htaken]
    rfl

/-- The digits of a number are taken as a numeral without fraction and exponent. -/
theorem takeNumeral_toDigits (negative : Bool) (value : Nat) {rest : Bytes}
    (hrest : EndsNumeral rest) :
    takeNumeral negative ((Nat.toDigits 10 value).flatMap Bytes.ofChar ++ rest) =
      some (.number ⟨negative, writtenDigits value, none, none⟩, rest) := by
  have hfraction : takeFraction rest = some (none, rest) := by
    cases rest with
    | nil => rfl
    | cons byte rest => simp [takeFraction, (hrest byte rest rfl).2.1]
  have hexponent : takeExponent rest = some (none, rest) := by
    cases rest with
    | nil => rfl
    | cons byte rest =>
        obtain ⟨_, _, hlower, hupper⟩ := hrest byte rest rfl
        simp [takeExponent, hlower, hupper]
  rw [takeNumeral, takeWhole_toDigits value hrest]
  simp only [Option.bind_eq_bind, Option.bind_some, hfraction, hexponent]
  rfl

/-- A digit is one of ten bytes. -/
theorem bounds_of_digit {byte : UInt8} {value : Nat} (h : digit? byte = some value) :
    0x30 ≤ byte.toNat ∧ byte.toNat ≤ 0x39 := by
  unfold digit? at h
  split at h
  · next hrange =>
      simp only [Bool.and_eq_true, decide_eq_true_eq, UInt8.le_iff_toNat_le] at hrange
      exact hrange
  · cases h

/-- A digit begins a numeral, and is no blank. -/
theorem takeToken_digit {byte : UInt8} {value : Nat} (h : digit? byte = some value)
    (rest : Bytes) :
    isBlankByte byte = false ∧ takeToken byte rest = takeNumeral false (byte :: rest) := by
  obtain ⟨hlow, hhigh⟩ := bounds_of_digit h
  have hne : ∀ other : UInt8, other.toNat < 0x30 ∨ 0x39 < other.toNat → byte ≠ other := by
    rintro other hother rfl
    omega
  constructor
  · simp [isBlankByte, hne 0x20 (by decide), hne 0x09 (by decide), hne 0x0A (by decide),
      hne 0x0D (by decide)]
  · simp [takeToken, hne 0x5B (by decide), hne 0x5D (by decide), hne 0x7B (by decide),
      hne 0x7D (by decide), hne 0x2C (by decide), hne 0x3A (by decide), hne 0x22 (by decide),
      hne 0x6E (by decide), hne 0x74 (by decide), hne 0x66 (by decide), hne 0x2D (by decide)]

/-- A written integer is taken as one numeral where no numeral could go on. -/
theorem takeToken_writeInteger (value : Int) :
    ∃ byte written, (writeInteger value).flatMap Bytes.ofChar = byte :: written ∧
      isBlankByte byte = false ∧ ∀ rest, EndsNumeral rest →
        takeToken byte (written ++ rest) = some (.number (writtenNumeral value), rest) := by
  rw [writeInteger, writtenNumeral]
  by_cases hnegative : value < 0
  · refine ⟨0x2D, (Nat.toDigits 10 value.natAbs).flatMap Bytes.ofChar, ?_, rfl, ?_⟩
    · rw [if_pos hnegative]
      rfl
    · intro rest hrest
      rw [decide_eq_true hnegative]
      exact takeNumeral_toDigits true value.natAbs hrest
  · obtain ⟨first, more, hdigits, _⟩ := toDigits_eq_cons value.natAbs
    have hfirst : first.isDigit = true :=
      Nat.isDigit_of_mem_toDigits (b := 10) (n := value.natAbs) (by decide) (by decide)
        (hdigits ▸ List.mem_cons_self)
    obtain ⟨byte, hbyte, _, hdigit⟩ := digit_reads hfirst
    refine ⟨byte, more.flatMap Bytes.ofChar, ?_, (takeToken_digit hdigit []).1, ?_⟩
    · rw [if_neg hnegative, hdigits, List.nil_append, List.flatMap_cons, hbyte]
      rfl
    · intro rest hrest
      have hnumeral := takeNumeral_toDigits false value.natAbs hrest
      rw [hdigits, List.flatMap_cons, hbyte] at hnumeral
      rw [(takeToken_digit hdigit _).2, decide_eq_false hnegative]
      exact hnumeral

/-- The number that digits after a number denote with it. -/
def digitsAfter (start : Nat) (digits : List Nat) : Nat :=
  digits.foldl (fun value digit => value * 10 + digit) start

/-- Digits do not make a number smaller. -/
theorem le_digitsAfter (start : Nat) (digits : List Nat) : start ≤ digitsAfter start digits := by
  induction digits generalizing start with
  | nil => exact Nat.le_refl start
  | cons digit digits ih => exact Nat.le_trans (by omega) (ih (start * 10 + digit))

/-- The digits of a number denote it. -/
theorem digitsAfter_writtenDigits (value : Nat) : digitsAfter 0 (writtenDigits value) = value := by
  have hfold : ∀ (digits : List Char) (start : Nat),
      digitsAfter start (digits.map fun digit => digit.toNat - 48) =
        Nat.ofDigitChars 10 digits start := by
    intro digits
    induction digits with
    | nil => exact fun start => Nat.ofDigitChars_nil.symm
    | cons digit digits ih =>
        intro start
        rw [Nat.ofDigitChars_cons, ← ih, Nat.mul_comm]
        rfl
  rw [writtenDigits, hfold, Nat.ofDigitChars_ten_toDigits]

/-- The digits of a number that fits a word are all collected. -/
theorem collectDigits_eq {start : Nat} {digits : List Nat}
    (h : digitsAfter start digits ≤ greatestWord) :
    collectDigits start digits = (digitsAfter start digits, 0) := by
  induction digits generalizing start with
  | nil => rfl
  | cons digit digits ih =>
      have hfits := Nat.le_trans (le_digitsAfter (start * 10 + digit) digits) h
      rw [collectDigits, if_neg (Nat.not_lt.2 hfits), ih h]
      rfl

/-- A written integer of 64 bits denotes itself. -/
theorem number?_writtenNumeral {value : Int} (h : FitsWord value) :
    (writtenNumeral value).number? = some (.integer value) := by
  obtain ⟨hlow, hhigh⟩ := h
  have hword : value.natAbs ≤ greatestWord := by
    have hgreatest : greatestWord = 0xFFFFFFFFFFFFFFFF := rfl
    omega
  have hdigits := digitsAfter_writtenDigits value.natAbs
  have hcollect : collectDigits 0 (writtenDigits value.natAbs) = (value.natAbs, 0) := by
    rw [collectDigits_eq (hdigits.symm ▸ hword), hdigits]
  simp only [Numeral.number?, writtenNumeral, hcollect]
  rw [if_neg (Nat.lt_irrefl 0)]
  by_cases hnegative : value < 0
  · rw [if_neg (by simp [hnegative]), if_pos]
    · congr 2
      omega
    · have hpower : Nat.pow 2 63 = 0x8000000000000000 := rfl
      omega
  · rw [if_pos (by simp [hnegative])]
    congr 2
    omega

/-- A numeral is that of one integer only. -/
theorem writtenNumeral_inj {value other : Int} (h : writtenNumeral value = writtenNumeral other) :
    value = other := by
  simp only [writtenNumeral, Numeral.mk.injEq, decide_eq_decide, and_true] at h
  obtain ⟨hnegative, hdigits⟩ := h
  have habs := congrArg (digitsAfter 0) hdigits
  rw [digitsAfter_writtenDigits, digitsAfter_writtenDigits] at habs
  omega

end CloudCredentials.Json
