import CloudCredentials.Proofs.Json.Values
import CloudCredentials.ServiceAccount.Key
import Mathlib.Data.List.Forall2
import Mathlib.Logic.Function.Basic

/-!
# The fields of a key document

The members of an object and the items of an array are read alike, as values of fields. `HasTexts`
says which key such values make. `FieldFault` says what is wrong with values that make none: the
first value that its field cannot have, in the order of the document, and only without such a value
a field that is missing. The last four theorems say so of objects and of arrays.
-/

namespace CloudCredentials

open Json (Members Value member? IsSorted)

/-- A result is that of an outcome under a function. -/
theorem map_eq_ok_iff {ε α β : Type} (function : α → β) (outcome : Except ε α) (result : β) :
    outcome.map function = .ok result ↔ ∃ value, outcome = .ok value ∧ function value = result := by
  cases outcome <;> simp [Except.map]

/-- A failure stays what it is under a function of results. -/
theorem map_eq_error_iff {ε α β : Type} (function : α → β) (outcome : Except ε α) (error : ε) :
    outcome.map function = .error error ↔ outcome = .error error := by
  cases outcome <;> simp [Except.map]

/-- A result stays what it is under a function of failures. -/
theorem mapError_eq_ok_iff {ε δ α : Type} (function : ε → δ) (outcome : Except ε α) (result : α) :
    outcome.mapError function = .ok result ↔ outcome = .ok result := by
  cases outcome <;> simp [Except.mapError]

/-- A failure is that of an outcome under a function of failures. -/
theorem mapError_eq_error_iff {ε δ α : Type} (function : ε → δ) (outcome : Except ε α) (error : δ) :
    outcome.mapError function = .error error ↔
      ∃ fault, outcome = .error fault ∧ function fault = error := by
  cases outcome <;> simp [Except.mapError]

/-- An outcome that shows a result is that result. -/
theorem toOption_eq_some_iff {ε α : Type} (outcome : Except ε α) (result : α) :
    outcome.toOption = some result ↔ outcome = .ok result := by
  cases outcome <;> simp [Except.toOption]

namespace KeyField

/-- The member of a name bears that name. -/
theorem ofName?_eq_some_iff (name : String) (field : KeyField) :
    ofName? name = some field ↔ field.name = name := by
  constructor
  · intro h
    simpa using List.find?_some h
  · rintro rfl
    cases field <;> rfl

/-- A member has a name of its own. -/
theorem name_injective : Function.Injective name := by
  intro field other h
  have hname := (ofName?_eq_some_iff _ field).2 h
  rw [(ofName?_eq_some_iff _ other).2 rfl] at hname
  exact (Option.some.inj hname).symm

/-- The place of a member in the array form. -/
def place (field : KeyField) : Nat := all.idxOf field

/-- The name of the member comes before that of another one. -/
def NamedBefore (field other : KeyField) : Prop := field.name < other.name

/-- The place of the member comes before that of another one. -/
def PlacedBefore (field other : KeyField) : Prop := field.place < other.place

/-- `field.Takes value text` says which text a member has by what a document holds for it. A string
is its own text. Null and nothing are no text, where none is required. -/
inductive Takes (field : KeyField) : Option Value → Option String → Prop where
  | text (text : String) : Takes field (some (.string text)) (some text)
  | null (hoptional : field.isRequired = false) : Takes field (some .null) none
  | absent (hoptional : field.isRequired = false) : Takes field none none

/-- The member can have the value. -/
def Suits (field : KeyField) (value : Value) : Prop :=
  ∃ text, field.Takes (some value) text

variable {field : KeyField}

/-- What a document holds for a member leaves no choice of its text. -/
theorem Takes.unique {value : Option Value} {text other : Option String}
    (h : field.Takes value text) (hother : field.Takes value other) : text = other := by
  cases h <;> cases hother <;> rfl

/-- A member has the text of a string only. -/
theorem Takes.eq_string {value : Option Value} {text : String} (h : field.Takes value (some text)) :
    value = some (.string text) := by
  cases h with
  | text => rfl

/-- A member that is required has a text. -/
theorem Takes.isSome {value : Option Value} {text : Option String} (h : field.Takes value text)
    (hrequired : field.isRequired = true) : ∃ written, value = some (.string written) := by
  cases h with
  | text written => exact ⟨written, rfl⟩
  | null hoptional | absent hoptional =>
      rw [hoptional] at hrequired
      cases hrequired

/-- Every member can be a string. -/
theorem suits_string (field : KeyField) (text : String) : field.Suits (.string text) :=
  ⟨some text, .text text⟩

/-- A value is read as the text that the member takes from it. -/
theorem text?_eq_ok_iff (field : KeyField) (value : Value) (text : Option String) :
    field.text? value = .ok text ↔ field.Takes (some value) text := by
  constructor
  · intro h
    cases value with
    | string written =>
        cases h
        exact .text written
    | null =>
        rw [text?] at h
        split at h
        · cases h
        · next hoptional =>
            cases h
            exact .null (Bool.eq_false_iff.2 hoptional)
    | boolean | number | array | object => cases h
  · intro h
    cases h with
    | text written => rfl
    | null hoptional => rw [text?, hoptional, if_neg Bool.false_ne_true]

/-- A value is refused if the member cannot have it, and the refusal names the value. -/
theorem text?_eq_error_iff (field : KeyField) (value : Value) (fault : KeyFault) :
    field.text? value = .error fault ↔ ¬ field.Suits value ∧ fault = .notString value := by
  have hok := field.text?_eq_ok_iff value
  cases h : field.text? value with
  | ok text =>
      have hsuits : field.Suits value := ⟨text, (hok text).1 h⟩
      simp [hsuits]
  | error reason =>
      have hsuits : ¬ field.Suits value := by
        rintro ⟨text, htakes⟩
        rw [(hok text).2 htakes] at h
        cases h
      have hreason : reason = .notString value := by
        cases value with
        | null =>
            rw [text?] at h
            split at h
            · cases h
              rfl
            · cases h
        | string | boolean | number | array | object =>
            cases h
            try rfl
      simp [hsuits, hreason, eq_comm]

end KeyField

namespace ServiceAccountKey

/-- The text of a key in a field. -/
def text (key : ServiceAccountKey) : KeyField → Option String
  | .kind => key.kind
  | .projectId => key.projectId
  | .privateKeyId => key.privateKeyId
  | .privateKey => some key.privateKey
  | .clientEmail => some key.clientEmail
  | .clientId => key.clientId
  | .tokenUri => key.storedTokenUri

/-- A required field of a key has a text. -/
theorem isRequired_eq_false_of_text {key : ServiceAccountKey} {field : KeyField}
    (h : key.text field = none) : field.isRequired = false := by
  cases field with
  | privateKey | clientEmail => cases h
  | kind | projectId | privateKeyId | clientId | tokenUri => rfl

/-- The key has in each field the text that the field takes from what there is for it. -/
def HasTexts (values : KeyField → Option Value) (key : ServiceAccountKey) : Prop :=
  ∀ field : KeyField, field.Takes (values field) (key.text field)

/-- Every value that there is suits its field. -/
def AllSuit (values : KeyField → Option Value) : Prop :=
  ∀ field value, values field = some value → field.Suits value

/-- The values of a key suit their fields. -/
theorem HasTexts.allSuit {values : KeyField → Option Value} {key : ServiceAccountKey}
    (h : HasTexts values key) : AllSuit values := fun field _ hvalue =>
  ⟨key.text field, hvalue ▸ h field⟩

/-- `FieldFault precedes values missing fault` says which fault values of fields have. Of values
that do not suit their fields the first counts. A field that is missing counts after these, and the
private key before the client. -/
inductive FieldFault (precedes : KeyField → KeyField → Prop) (values : KeyField → Option Value)
    (missing : KeyField → KeyFault) : KeyFault → Prop where
  | unsuitable (field : KeyField) (value : Value) (hvalue : values field = some value)
      (hsuits : ¬ field.Suits value)
      (hfirst : ∀ other earlier, precedes other field → values other = some earlier →
        other.Suits earlier) :
      FieldFault precedes values missing (.notString value)
  | noPrivateKey (hsuits : AllSuit values) (habsent : values .privateKey = none) :
      FieldFault precedes values missing (missing .privateKey)
  | noClientEmail (hsuits : AllSuit values) (hpresent : values .privateKey ≠ none)
      (habsent : values .clientEmail = none) :
      FieldFault precedes values missing (missing .clientEmail)

/-! ## Fields one after the other -/

/-- The texts of fields that are given one after the other. -/
def readFields (given : List (KeyField × Value)) : Except KeyFault Texts :=
  given.mapM fun (field, value) => do return (field, ← field.text? value)

/-- The key of fields that are given one after the other. -/
def ofFields (given : List (KeyField × Value)) (missing : KeyField → KeyFault) :
    Except KeyFault ServiceAccountKey := do
  ofTexts (← readFields given) missing

/-- A text is found for the field that a given value is of. -/
def Reads (given : KeyField × Value) (found : KeyField × Option String) : Prop :=
  found.1 = given.1 ∧ given.1.Takes (some given.2) found.2

/-- A value that suits its field is read in front of the others. -/
theorem readFields_cons_of_takes {field : KeyField} {value : Value} {text : Option String}
    (h : field.Takes (some value) text) (given : List (KeyField × Value)) :
    readFields ((field, value) :: given) = (readFields given).map ((field, text) :: ·) := by
  rw [readFields, List.mapM_cons, ← readFields]
  simp only [(field.text?_eq_ok_iff value text).2 h]
  cases readFields given <;> rfl

/-- Nothing is read after a value that does not suit its field. -/
theorem readFields_cons_of_not_suits {field : KeyField} {value : Value} (h : ¬ field.Suits value)
    (given : List (KeyField × Value)) :
    readFields ((field, value) :: given) = .error (.notString value) := by
  rw [readFields, List.mapM_cons]
  simp only [(field.text?_eq_error_iff value _).2 ⟨h, rfl⟩]
  rfl

/-- Fields are read if every value suits its field. -/
theorem readFields_eq_ok_iff (given : List (KeyField × Value)) (texts : Texts) :
    readFields given = .ok texts ↔ List.Forall₂ Reads given texts := by
  induction given generalizing texts with
  | nil => simp [readFields, pure, Except.pure, eq_comm]
  | cons entry given ih =>
      obtain ⟨field, value⟩ := entry
      rw [List.forall₂_cons_left_iff]
      by_cases hsuits : field.Suits value
      · obtain ⟨text, htakes⟩ := hsuits
        rw [readFields_cons_of_takes htakes, map_eq_ok_iff]
        constructor
        · rintro ⟨rest, hrest, rfl⟩
          exact ⟨(field, text), rest, ⟨rfl, htakes⟩, (ih rest).1 hrest, rfl⟩
        · rintro ⟨⟨other, found⟩, rest, ⟨hfield, hfound⟩, hrest, rfl⟩
          obtain rfl : other = field := hfield
          rw [htakes.unique hfound]
          exact ⟨rest, (ih rest).2 hrest, rfl⟩
      · rw [readFields_cons_of_not_suits hsuits]
        refine iff_of_false (by simp) ?_
        rintro ⟨found, rest, ⟨_, htakes⟩, _⟩
        exact hsuits ⟨_, htakes⟩

/-- The fault of fields that are not read is the first value that does not suit its field. -/
theorem readFields_eq_error_iff (given : List (KeyField × Value)) (fault : KeyFault) :
    readFields given = .error fault ↔
      ∃ before field value after, given = before ++ (field, value) :: after ∧
        (∀ entry ∈ before, entry.1.Suits entry.2) ∧ ¬ field.Suits value ∧
        fault = .notString value := by
  induction given with
  | nil => simp [readFields, pure, Except.pure]
  | cons entry given ih =>
      obtain ⟨field, value⟩ := entry
      by_cases hsuits : field.Suits value
      · obtain ⟨text, htakes⟩ := hsuits
        rw [readFields_cons_of_takes htakes, map_eq_error_iff, ih]
        constructor
        · rintro ⟨before, other, found, after, rfl, hbefore, hfound, rfl⟩
          exact ⟨(field, value) :: before, other, found, after, rfl,
            List.forall_mem_cons.2 ⟨⟨text, htakes⟩, hbefore⟩, hfound, rfl⟩
        · rintro ⟨before, other, found, after, hgiven, hbefore, hfound, rfl⟩
          cases before with
          | nil =>
              cases hgiven
              exact absurd ⟨text, htakes⟩ hfound
          | cons entry before =>
              cases hgiven
              exact ⟨before, other, found, after, rfl, (List.forall_mem_cons.1 hbefore).2, hfound,
                rfl⟩
      · rw [readFields_cons_of_not_suits hsuits]
        constructor
        · intro h
          cases h
          exact ⟨[], field, value, given, rfl, by simp, hsuits, rfl⟩
        · rintro ⟨before, other, found, after, hgiven, hbefore, _, rfl⟩
          cases before with
          | nil =>
              cases hgiven
              rfl
          | cons entry before =>
              cases hgiven
              exact absurd (hbefore _ List.mem_cons_self) hsuits

/-- The value that is given for a field. -/
def valueOf (given : List (KeyField × Value)) (field : KeyField) : Option Value :=
  given.lookup field

/-- What is given first for a field counts. -/
theorem valueOf_cons (other : KeyField) (value : Value) (given : List (KeyField × Value))
    (field : KeyField) :
    valueOf ((other, value) :: given) field =
      if field = other then some value else valueOf given field := by
  by_cases heq : field = other
  · simp [valueOf, heq]
  · simp [valueOf, List.lookup_cons, beq_eq_false_iff_ne.2 heq, heq]

/-- The text of a field is what the field takes from the value that is given for it. -/
theorem takes_or_absent {given : List (KeyField × Value)} {texts : Texts}
    (h : List.Forall₂ Reads given texts) (field : KeyField) :
    (∃ value, valueOf given field = some value ∧
        field.Takes (some value) (textOf texts field)) ∨
      valueOf given field = none ∧ textOf texts field = none := by
  induction h with
  | nil => exact .inr ⟨rfl, rfl⟩
  | @cons entry found given texts hentry _ ih =>
      obtain ⟨other, value⟩ := entry
      obtain ⟨known, text⟩ := found
      obtain ⟨hknown, htakes⟩ := hentry
      obtain rfl : known = other := hknown
      by_cases heq : field = known
      · subst heq
        exact .inl ⟨value, by simp [valueOf_cons], by simpa [textOf] using htakes⟩
      · have hne := beq_eq_false_iff_ne.2 heq
        simpa [valueOf_cons, heq, List.lookup_cons, textOf, hne] using ih

/-- A key is made of texts if each of its fields has its text from them. -/
theorem ofTexts_eq_ok_iff (texts : Texts) (missing : KeyField → KeyFault)
    (key : ServiceAccountKey) :
    ofTexts texts missing = .ok key ↔ ∀ field, textOf texts field = key.text field := by
  constructor
  · intro h field
    unfold ofTexts at h
    cases hprivate : textOf texts .privateKey with
    | none => simp [hprivate, throw, throwThe, MonadExceptOf.throw] at h
    | some privateKey =>
        cases hemail : textOf texts .clientEmail with
        | none => simp [hprivate, hemail, throw, throwThe, MonadExceptOf.throw] at h
        | some clientEmail =>
            simp only [hprivate, hemail, pure, Except.pure, Except.ok.injEq] at h
            subst h
            cases field with
            | privateKey => exact hprivate
            | clientEmail => exact hemail
            | kind | projectId | privateKeyId | clientId | tokenUri => rfl
  · intro h
    simp only [ofTexts, h]
    rfl

/-- No key is made of texts without a private key, or else without a client. -/
theorem ofTexts_eq_error_iff (texts : Texts) (missing : KeyField → KeyFault) (fault : KeyFault) :
    ofTexts texts missing = .error fault ↔
      textOf texts .privateKey = none ∧ fault = missing .privateKey ∨
        textOf texts .privateKey ≠ none ∧ textOf texts .clientEmail = none ∧
          fault = missing .clientEmail := by
  unfold ofTexts
  cases textOf texts .privateKey with
  | none => simp [throw, throwThe, MonadExceptOf.throw, eq_comm]
  | some privateKey =>
      cases textOf texts .clientEmail with
      | none => simp [throw, throwThe, MonadExceptOf.throw, eq_comm]
      | some clientEmail => simp [pure, Except.pure]

/-- Fields are given in an order in which none comes before itself or before one that it comes
after. -/
structure Ordered (precedes : KeyField → KeyField → Prop) (given : List (KeyField × Value)) :
    Prop where
  asymm : ∀ field other, precedes field other → ¬ precedes other field
  pairwise : given.Pairwise fun entry later => precedes entry.1 later.1

variable {precedes : KeyField → KeyField → Prop} {given : List (KeyField × Value)}

/-- What is given for a field in order is given once. -/
theorem Ordered.valueOf_eq_some_iff (h : Ordered precedes given) (field : KeyField)
    (value : Value) : valueOf given field = some value ↔ (field, value) ∈ given := by
  obtain ⟨hasymm, hpairwise⟩ := h
  induction given with
  | nil => simp [valueOf]
  | cons entry given ih =>
      obtain ⟨other, present⟩ := entry
      obtain ⟨hfirst, hrest⟩ := List.pairwise_cons.1 hpairwise
      rw [valueOf_cons]
      by_cases heq : field = other
      · subst heq
        have hlater : (field, value) ∉ given := fun hmem => by
          have hself : precedes field field := hfirst _ hmem
          exact hasymm _ _ hself hself
        simp [hlater, eq_comm]
      · simp [heq, ih hrest]

/-- Fields in order are read if each suits. -/
theorem Ordered.exists_readFields (h : Ordered precedes given) (hsuits : AllSuit (valueOf given)) :
    ∃ texts, readFields given = .ok texts := by
  cases hread : readFields given with
  | ok texts => exact ⟨texts, rfl⟩
  | error fault =>
      obtain ⟨before, field, value, after, hgiven, _, hunsuited, _⟩ :=
        (readFields_eq_error_iff _ _).1 hread
      have hvalue := (h.valueOf_eq_some_iff field value).2 (by simp [hgiven])
      exact absurd (hsuits field value hvalue) hunsuited

/-- The fields that are read suit. -/
theorem allSuit_of_readFields {texts : Texts} (h : readFields given = .ok texts) :
    AllSuit (valueOf given) := by
  intro field value hvalue
  rcases takes_or_absent ((readFields_eq_ok_iff _ _).1 h) field with
    ⟨found, hfound, htakes⟩ | ⟨habsent, _⟩
  · rw [Option.some.inj (hvalue.symm.trans hfound)]
    exact ⟨_, htakes⟩
  · rw [hvalue] at habsent
    cases habsent

/-- A required field of the fields that are read has no text if it is not given. -/
theorem textOf_eq_none_iff {texts : Texts} (h : readFields given = .ok texts) {field : KeyField}
    (hrequired : field.isRequired = true) :
    textOf texts field = none ↔ valueOf given field = none := by
  rcases takes_or_absent ((readFields_eq_ok_iff _ _).1 h) field with
    ⟨value, hvalue, htakes⟩ | ⟨habsent, hnone⟩
  · refine iff_of_false (fun hnone => ?_) (by simp [hvalue])
    obtain ⟨written, hwritten⟩ := htakes.isSome hrequired
    rw [hwritten, hnone] at htakes
    cases htakes
  · exact iff_of_true hnone habsent

/-- Fields in order make the key that has their texts. -/
theorem Ordered.ofFields_eq_ok_iff (h : Ordered precedes given) (missing : KeyField → KeyFault)
    (key : ServiceAccountKey) :
    ofFields given missing = .ok key ↔ HasTexts (valueOf given) key := by
  cases hread : readFields given with
  | error fault =>
      refine iff_of_false (by simp [ofFields, hread, bind, Except.bind]) fun htexts => ?_
      obtain ⟨texts, hok⟩ := h.exists_readFields htexts.allSuit
      rw [hok] at hread
      cases hread
  | ok texts =>
      have hkey : ofFields given missing = ofTexts texts missing := by
        rw [ofFields, hread]
        rfl
      rw [hkey, ofTexts_eq_ok_iff]
      refine forall_congr' fun field => ?_
      rcases takes_or_absent ((readFields_eq_ok_iff _ _).1 hread) field with
        ⟨value, hvalue, htakes⟩ | ⟨habsent, hnone⟩
      · rw [hvalue]
        exact ⟨fun heq => heq ▸ htakes, fun hother => htakes.unique hother⟩
      · rw [habsent, hnone]
        constructor
        · intro heq
          rw [← heq]
          exact .absent (isRequired_eq_false_of_text heq.symm)
        · intro htakes
          generalize key.text field = found at htakes
          cases htakes
          rfl

/-- Fields that make no key have the fault that is reported. -/
theorem Ordered.fieldFault_of_ofFields (h : Ordered precedes given)
    {missing : KeyField → KeyFault} {fault : KeyFault}
    (hfault : ofFields given missing = .error fault) :
    FieldFault precedes (valueOf given) missing fault := by
  cases hread : readFields given with
  | error reason =>
      rw [ofFields, hread] at hfault
      cases hfault
      obtain ⟨before, field, value, after, hgiven, hbefore, hunsuited, rfl⟩ :=
        (readFields_eq_error_iff _ _).1 hread
      have hvalue := (h.valueOf_eq_some_iff field value).2 (by simp [hgiven])
      refine .unsuitable field value hvalue hunsuited fun other earlier hprecedes hearlier => ?_
      -- What precedes the field is given before it, and not with or after it.
      have hmem := (h.valueOf_eq_some_iff other earlier).1 hearlier
      have hpairwise := h.pairwise
      rw [hgiven] at hmem hpairwise
      have hlater := (List.pairwise_cons.1 (List.pairwise_append.1 hpairwise).2.1).1
      rcases List.mem_append.1 hmem with hmem | hmem
      · exact hbefore _ hmem
      · rcases List.mem_cons.1 hmem with heq | hmem
        · cases heq
          exact absurd hprecedes (h.asymm _ _ hprecedes)
        · exact absurd hprecedes (h.asymm _ _ (hlater _ hmem))
  | ok texts =>
      have hsuits := allSuit_of_readFields hread
      rw [ofFields, hread] at hfault
      rcases (ofTexts_eq_error_iff texts missing fault).1 hfault with
        ⟨hprivate, rfl⟩ | ⟨hprivate, hemail, rfl⟩
      · exact .noPrivateKey hsuits ((textOf_eq_none_iff hread rfl).1 hprivate)
      · exact .noClientEmail hsuits (mt (textOf_eq_none_iff hread rfl).2 hprivate)
          ((textOf_eq_none_iff hread rfl).1 hemail)

/-- Fields with a fault make no key, and the fault is reported. -/
theorem Ordered.ofFields_of_fieldFault (h : Ordered precedes given)
    {missing : KeyField → KeyFault} {fault : KeyFault}
    (hfault : FieldFault precedes (valueOf given) missing fault) :
    ofFields given missing = .error fault := by
  have hmissing : AllSuit (valueOf given) → ∃ texts, readFields given = .ok texts ∧
      ofFields given missing = ofTexts texts missing := fun hsuits => by
    obtain ⟨texts, hread⟩ := h.exists_readFields hsuits
    exact ⟨texts, hread, by rw [ofFields, hread]; rfl⟩
  cases hfault with
  | unsuitable field value hvalue hunsuited hfirst =>
      obtain ⟨before, after, hgiven⟩ :=
        List.append_of_mem ((h.valueOf_eq_some_iff field value).1 hvalue)
      have hpairwise := h.pairwise
      rw [hgiven] at hpairwise
      have hearlier := (List.pairwise_append.1 hpairwise).2.2
      have hbefore : ∀ entry ∈ before, entry.1.Suits entry.2 := fun entry hmem =>
        hfirst entry.1 entry.2 (hearlier entry hmem _ List.mem_cons_self)
          ((h.valueOf_eq_some_iff _ _).2 (by simp [hgiven, hmem]))
      have hread : readFields given = .error (.notString value) :=
        (readFields_eq_error_iff _ _).2
          ⟨before, field, value, after, hgiven, hbefore, hunsuited, rfl⟩
      rw [ofFields, hread]
      rfl
  | noPrivateKey hsuits habsent =>
      obtain ⟨texts, hread, heq⟩ := hmissing hsuits
      rw [heq, ofTexts_eq_error_iff]
      exact .inl ⟨(textOf_eq_none_iff hread rfl).2 habsent, rfl⟩
  | noClientEmail hsuits hpresent habsent =>
      obtain ⟨texts, hread, heq⟩ := hmissing hsuits
      rw [heq, ofTexts_eq_error_iff]
      exact .inr ⟨mt (textOf_eq_none_iff hread rfl).1 hpresent,
        (textOf_eq_none_iff hread rfl).2 habsent, rfl⟩

/-- Fields in order have the fault of the first that does not suit, or else of one that is
missing. -/
theorem Ordered.ofFields_eq_error_iff (h : Ordered precedes given)
    (missing : KeyField → KeyFault) (fault : KeyFault) :
    ofFields given missing = .error fault ↔
      FieldFault precedes (valueOf given) missing fault :=
  ⟨h.fieldFault_of_ofFields, h.ofFields_of_fieldFault⟩

/-! ## Objects -/

/-- The members of an object that are fields of a key. -/
def knownMembers (members : Members) : List (KeyField × Value) :=
  members.filterMap fun (name, value) => (KeyField.ofName? name).map (·, value)

/-- The key of an object is that of its members. -/
theorem ofValue_object (members : Members) :
    ofValue (.object members) = ofFields (knownMembers members) fun field => .missing field.name :=
  rfl

/-- A member that is no field is left out. -/
theorem knownMembers_cons_of_unknown {name : String} (h : KeyField.ofName? name = none)
    (value : Value) (members : Members) :
    knownMembers ((name, value) :: members) = knownMembers members := by
  simp only [knownMembers, List.filterMap_cons, h, Option.map_none]

/-- A member that is a field is given for that field, before the others. -/
theorem knownMembers_cons_of_known {field : KeyField} {name : String}
    (h : KeyField.ofName? name = some field) (value : Value) (members : Members) :
    knownMembers ((name, value) :: members) = (field, value) :: knownMembers members := by
  simp only [knownMembers, List.filterMap_cons, h, Option.map_some]

/-- A field has the value of the member with its name. -/
theorem valueOf_knownMembers (members : Members) :
    valueOf (knownMembers members) = fun field => member? field.name members := by
  funext field
  induction members with
  | nil => rfl
  | cons entry members ih =>
      obtain ⟨name, value⟩ := entry
      cases hname : KeyField.ofName? name with
      | none =>
          have hne : field.name ≠ name := by
            intro heq
            rw [(KeyField.ofName?_eq_some_iff name field).2 heq] at hname
            cases hname
          rw [knownMembers_cons_of_unknown hname, ih]
          simp [member?, List.lookup_cons, beq_eq_false_iff_ne.2 hne]
      | some known =>
          obtain rfl := (KeyField.ofName?_eq_some_iff name known).1 hname
          rw [knownMembers_cons_of_known hname, valueOf_cons, ih]
          by_cases heq : field = known
          · simp [heq, member?]
          · have hne : field.name ≠ known.name := fun h => heq (KeyField.name_injective h)
            simp [heq, member?, List.lookup_cons, beq_eq_false_iff_ne.2 hne]

/-- The fields of sorted members are in the order of their names. -/
theorem ordered_knownMembers {members : Members} (h : IsSorted members) :
    Ordered KeyField.NamedBefore (knownMembers members) := by
  refine ⟨fun field other => String.lt_asymm, List.Pairwise.filterMap _ ?_ h⟩
  rintro ⟨name, value⟩ ⟨later, other⟩ hlt entry hentry entryLater hentryLater
  obtain ⟨field, hfield, rfl⟩ := Option.map_eq_some_iff.1 hentry
  obtain ⟨fieldLater, hfieldLater, rfl⟩ := Option.map_eq_some_iff.1 hentryLater
  rw [KeyField.ofName?_eq_some_iff] at hfield hfieldLater
  show field.name < fieldLater.name
  rwa [hfield, hfieldLater]

/-- An object gives the key that has the texts of its members. -/
theorem ofValue_object_eq_ok_iff {members : Members} (h : IsSorted members)
    (key : ServiceAccountKey) :
    ofValue (.object members) = .ok key ↔
      HasTexts (fun field => member? field.name members) key := by
  rw [ofValue_object, (ordered_knownMembers h).ofFields_eq_ok_iff, valueOf_knownMembers]

/-- An object that gives no key has the fault of its members in the order of their names. -/
theorem ofValue_object_eq_error_iff {members : Members} (h : IsSorted members)
    (fault : KeyFault) :
    ofValue (.object members) = .error fault ↔
      FieldFault KeyField.NamedBefore (fun field => member? field.name members)
        (fun field => .missing field.name) fault := by
  rw [ofValue_object, (ordered_knownMembers h).ofFields_eq_error_iff, valueOf_knownMembers]

/-! ## Arrays -/

/-- A list of pairs has under a key what is in the place of the key. -/
theorem lookup_zip {κ α : Type} [BEq κ] [LawfulBEq κ] {keys : List κ} {key : κ} (h : key ∈ keys)
    (items : List α) : (keys.zip items).lookup key = items[keys.idxOf key]? := by
  induction keys generalizing items with
  | nil => cases h
  | cons first keys ih =>
      cases items with
      | nil => rfl
      | cons item items =>
          by_cases heq : key = first
          · subst heq
            simp
          · have hmem := (List.mem_cons.1 h).resolve_left heq
            rw [List.zip_cons_cons, List.lookup_cons, beq_eq_false_iff_ne.2 heq,
              List.idxOf_cons_ne _ (Ne.symm heq), List.getElem?_cons_succ]
            exact ih hmem items

/-- Pairs are in the order of their keys. -/
theorem pairwise_zip {κ α : Type} {relation : κ → κ → Prop} {keys : List κ}
    (h : keys.Pairwise relation) (items : List α) :
    (keys.zip items).Pairwise fun entry later => relation entry.1 later.1 := by
  induction h generalizing items with
  | nil => exact List.Pairwise.nil
  | cons hfirst _ ih =>
      cases items with
      | nil => exact List.Pairwise.nil
      | cons item items =>
          refine List.pairwise_cons.2 ⟨fun later hlater => ?_, ih items⟩
          exact hfirst _ (List.of_mem_zip hlater).1

/-- A field has the value of the item in its place. -/
theorem valueOf_zip (items : List Value) :
    valueOf (KeyField.all.zip items) = fun field => items[field.place]? := by
  funext field
  exact lookup_zip (by cases field <;> decide) items

/-- The fields of an array are in the order of their places. -/
theorem ordered_zip (items : List Value) :
    Ordered KeyField.PlacedBefore (KeyField.all.zip items) := by
  have hall : KeyField.all.Pairwise KeyField.PlacedBefore := by
    unfold KeyField.PlacedBefore
    decide
  exact ⟨fun _ _ => Nat.lt_asymm, pairwise_zip hall items⟩

/-- The key of an array is that of its items, if there are no more of them than fields. -/
theorem ofValue_array (items : List Value) :
    ofValue (.array items) =
      (ofFields (KeyField.all.zip items) fun field => .tooFew field.place).bind fun key =>
        if KeyField.all.length < items.length then .error (.tooMany items.length) else .ok key := by
  rw [ofValue, ofFields]
  show Except.bind (readFields _) _ = _
  cases readFields (KeyField.all.zip items) <;> rfl

/-- An array gives the key that has the texts of its items, if it has no more items than a key has
fields. -/
theorem ofValue_array_eq_ok_iff (items : List Value) (key : ServiceAccountKey) :
    ofValue (.array items) = .ok key ↔
      items.length ≤ KeyField.all.length ∧ HasTexts (fun field => items[field.place]?) key := by
  rw [ofValue_array, ← valueOf_zip,
    ← (ordered_zip items).ofFields_eq_ok_iff fun field => .tooFew field.place]
  cases ofFields (KeyField.all.zip items) fun field => .tooFew field.place with
  | error fault => simp [Except.bind]
  | ok found =>
      by_cases hlength : KeyField.all.length < items.length
      · simp [Except.bind, hlength, Nat.not_le.2 hlength]
      · simp [Except.bind, hlength, Nat.not_lt.1 hlength]

/-- An array that gives no key has the fault of its items in their order, or goes on after the last
field. -/
theorem ofValue_array_eq_error_iff (items : List Value) (fault : KeyFault) :
    ofValue (.array items) = .error fault ↔
      FieldFault KeyField.PlacedBefore (fun field => items[field.place]?)
          (fun field => .tooFew field.place) fault ∨
        KeyField.all.length < items.length ∧ AllSuit (fun field => items[field.place]?) ∧
          fault = .tooMany items.length := by
  have hordered := ordered_zip items
  rw [ofValue_array, ← valueOf_zip, ← hordered.ofFields_eq_error_iff]
  cases hfields : ofFields (KeyField.all.zip items) fun field => .tooFew field.place with
  | error reason =>
      -- An array that is too long lacks no field, so that its fault is a value that does not suit.
      have hunsuited : KeyField.all.length < items.length →
          ¬ AllSuit (valueOf (KeyField.all.zip items)) := by
        intro hlength hsuits
        have hpresent : ∀ field : KeyField, valueOf (KeyField.all.zip items) field ≠ none := by
          intro field
          have hplace : field.place < KeyField.all.length := by cases field <;> decide
          simp only [valueOf_zip, ne_eq, List.getElem?_eq_none_iff, Nat.not_le]
          exact Nat.lt_trans hplace hlength
        cases (hordered.ofFields_eq_error_iff _ _).1 hfields with
        | unsuitable field value hvalue hnot => exact hnot (hsuits field value hvalue)
        | noPrivateKey _ habsent => exact hpresent _ habsent
        | noClientEmail _ _ habsent => exact hpresent _ habsent
      refine ⟨.inl, fun h => h.resolve_right ?_⟩
      rintro ⟨hlength, hsuits, _⟩
      exact hunsuited hlength hsuits
  | ok found =>
      have hsuits := ((hordered.ofFields_eq_ok_iff _ found).1 hfields).allSuit
      by_cases hlength : KeyField.all.length < items.length
      · simp [Except.bind, hlength, hsuits, eq_comm]
      · simp [Except.bind, hlength]

end ServiceAccountKey

end CloudCredentials
