import CloudCredentials.Proofs.Json.Contents
import CloudCredentials.Proofs.ServiceAccount.Fields
import Mathlib.Data.List.Infix

/-!
# Keys with and without line breaks put back

A key from a connection form and the same text read as it stands differ in the private key at most.
`breakLines_eq_self_iff` says which texts putting line breaks back leaves alone, and
`ofJson_of_ofFormText` what the text as it stands holds where the form gives a key.
-/

namespace CloudCredentials

open Json (Members Value member? IsSorted)

/-- Putting line breaks back changes a text exactly if a backslash is followed by the letter n. -/
theorem breakLines_eq_self_iff (characters : List Char) :
    breakLines characters = characters ↔ ¬ ['\\', 'n'] <:+: characters := by
  fun_induction breakLines characters with
  | case1 => simp
  | case2 character => simp [List.infix_cons_iff]
  | case3 first second rest hmark =>
      obtain ⟨rfl, rfl⟩ := hmark
      have hoccurs : ['\\', 'n'] <:+: '\\' :: 'n' :: rest := ⟨[], rest, rfl⟩
      simp [hoccurs]
  | case4 first second rest hmark ih =>
      rw [List.infix_cons_iff, List.cons_inj_right, ih]
      have hhead : ¬ ['\\', 'n'] <+: first :: second :: rest := by
        simp only [List.cons_prefix_cons, List.nil_prefix, and_true]
        exact fun h => hmark ⟨h.1.symm, h.2.symm⟩
      simp [hhead]

namespace ServiceAccountKey

/-- The key with another private key. -/
def withPrivateKey (key : ServiceAccountKey) (privateKey : String) : ServiceAccountKey :=
  { key with privateKey }

/-- Another private key leaves the other fields as they are. -/
theorem text_withPrivateKey (key : ServiceAccountKey) (privateKey : String) {field : KeyField}
    (h : field ≠ .privateKey) : (key.withPrivateKey privateKey).text field = key.text field := by
  cases field with
  | privateKey => exact absurd rfl h
  | kind | projectId | privateKeyId | clientEmail | clientId | tokenUri => rfl

/-- The key with the line breaks of its private key put back. -/
def mended (key : ServiceAccountKey) : ServiceAccountKey :=
  key.withPrivateKey (String.ofList (breakLines key.privateKey.toList))

/-- Other strings in the place of strings leave the fault of the fields as it is. -/
theorem FieldFault.of_strings {precedes : KeyField → KeyField → Prop}
    {values other : KeyField → Option Value} {missing : KeyField → KeyFault} {fault : KeyFault}
    (h : FieldFault precedes values missing fault)
    (hsame : ∀ field, other field = values field ∨
      ∃ old new, values field = some (.string old) ∧ other field = some (.string new)) :
    FieldFault precedes other missing fault := by
  have hsuits : ∀ field value, other field = some value →
      (∀ own, values field = some own → field.Suits own) → field.Suits value := by
    intro field value hvalue hown
    rcases hsame field with heq | ⟨_, new, _, hnew⟩
    · exact hown value (heq ▸ hvalue)
    · cases hvalue.symm.trans hnew
      exact field.suits_string new
  have hnone : ∀ field, other field = none ↔ values field = none := by
    intro field
    rcases hsame field with heq | ⟨old, new, hold, hnew⟩
    · rw [heq]
    · simp [hold, hnew]
  cases h with
  | unsuitable field value hvalue hunsuited hfirst =>
      refine .unsuitable field value ?_ hunsuited fun earlier present hprecedes hpresent =>
        hsuits earlier present hpresent fun own hown => hfirst earlier own hprecedes hown
      rcases hsame field with heq | ⟨old, _, hold, _⟩
      · rw [heq, hvalue]
      · cases hvalue.symm.trans hold
        exact absurd (field.suits_string old) hunsuited
  | noPrivateKey hall habsent =>
      exact .noPrivateKey (fun field value hvalue => hsuits field value hvalue (hall field))
        ((hnone _).2 habsent)
  | noClientEmail hall hpresent habsent =>
      exact .noClientEmail (fun field value hvalue => hsuits field value hvalue (hall field))
        (mt (hnone _).1 hpresent) ((hnone _).2 habsent)

/-- An object with another string in the place of its private key gives its key with that private
key, or fails as it does itself. -/
theorem ofValue_putPrivateKey {members : Members} (h : IsSorted members) {written : String}
    (hwritten : member? KeyField.privateKey.name members = some (.string written))
    (privateKey : String) :
    ofValue (.object (Json.putMember KeyField.privateKey.name (.string privateKey) members)) =
      (ofValue (.object members)).map (·.withPrivateKey privateKey) := by
  have hput := Json.isSorted_putMember KeyField.privateKey.name (.string privateKey) h
  have hself := Json.member?_putMember_self KeyField.privateKey.name (.string privateKey) members
  have hothers : ∀ field : KeyField, field ≠ .privateKey →
      member? field.name
        (Json.putMember KeyField.privateKey.name (.string privateKey) members) =
      member? field.name members := fun field hne =>
    Json.member?_putMember_of_ne _ _ _ _ fun heq => hne (KeyField.name_injective heq)
  cases hvalue : ofValue (.object members) with
  | ok key =>
      have htexts := (ofValue_object_eq_ok_iff h key).1 hvalue
      refine (ofValue_object_eq_ok_iff hput _).2 fun field => ?_
      by_cases heq : field = .privateKey
      · subst heq
        simp only [hself]
        exact .text _
      · simp only [hothers field heq, text_withPrivateKey key privateKey heq]
        exact htexts field
  | error fault =>
      refine (ofValue_object_eq_error_iff hput fault).2
        (((ofValue_object_eq_error_iff h fault).1 hvalue).of_strings fun field => ?_)
      by_cases heq : field = .privateKey
      · subst heq
        exact .inr ⟨written, privateKey, hwritten, hself⟩
      · exact .inl (hothers field heq)

/-- An object whose private key is a string has the line breaks of that string put back. -/
theorem withLineBreaks_of_string {members : Members} {written : String}
    (h : member? KeyField.privateKey.name members = some (.string written)) :
    withLineBreaks (.object members) = .object (Json.putMember KeyField.privateKey.name
      (.string (String.ofList (breakLines written.toList))) members) := by
  rw [withLineBreaks, h]

/-- An object whose private key is no string stays as it is. -/
theorem withLineBreaks_of_not_string {members : Members}
    (h : ¬ ∃ written, member? KeyField.privateKey.name members = some (.string written)) :
    withLineBreaks (.object members) = .object members := by
  rw [withLineBreaks]
  split
  · next written hwritten => exact absurd ⟨written, hwritten⟩ h
  · rfl

/-- The private key of an object that gives a key is a string. -/
theorem member?_privateKey_of_ofValue {members : Members} (h : IsSorted members)
    {key : ServiceAccountKey} (hkey : ofValue (.object members) = .ok key) :
    member? KeyField.privateKey.name members = some (.string key.privateKey) :=
  ((ofValue_object_eq_ok_iff h key).1 hkey .privateKey).eq_string

/-- An object in which the line breaks are put back gives its key with the line breaks put back, or
fails as it does itself. -/
theorem ofValue_withLineBreaks {members : Members} (h : IsSorted members) :
    ofValue (withLineBreaks (.object members)) = (ofValue (.object members)).map mended := by
  by_cases hstring : ∃ written, member? KeyField.privateKey.name members = some (.string written)
  · obtain ⟨written, hwritten⟩ := hstring
    rw [withLineBreaks_of_string hwritten, ofValue_putPrivateKey h hwritten]
    cases hvalue : ofValue (.object members) with
    | ok key =>
        cases hwritten.symm.trans (member?_privateKey_of_ofValue h hvalue)
        rfl
    | error fault => rfl
  · rw [withLineBreaks_of_not_string hstring]
    cases hvalue : ofValue (.object members) with
    | ok key => exact absurd ⟨_, member?_privateKey_of_ofValue h hvalue⟩ hstring
    | error fault => rfl

/-- A text is read as a key by way of the document that it holds. -/
theorem readWith_of_read {text : String} {value : Value} (h : Json.readText text = .ok value)
    (change : Value → Value) :
    readWith change text = (ofValue (change value)).mapError .malformedServiceAccount := by
  rw [readWith, h]
  cases hvalue : ofValue (change value) <;> simp [hvalue, Except.mapError]

/-- The members of an object that a text holds are sorted. -/
theorem isSorted_of_read {text : String} {members : Members}
    (h : Json.readText text = .ok (.object members)) : IsSorted members := by
  obtain ⟨written, _, rfl⟩ := (Json.readText_eq_object_iff text members).1 h
  exact Json.isSorted_keptMembers written

/-- From an object the form gives the key of the text as it stands, with the line breaks put
back. -/
theorem ofFormText_of_object {text : String} {members : Members}
    (h : Json.readText text = .ok (.object members)) :
    ofFormText text = (ofJson text).map mended := by
  rw [ofFormText, ofJson, readWith_of_read h, readWith_of_read h,
    ofValue_withLineBreaks (isSorted_of_read h), id]
  cases ofValue (.object members) <;> rfl

/-- From every other document the form gives the key of the text as it stands. -/
theorem ofFormText_of_not_object {text : String}
    (h : ∀ members, Json.readText text ≠ .ok (.object members)) :
    ofFormText text = ofJson text := by
  cases hread : Json.readText text with
  | error fault => simp only [ofFormText, ofJson, readWith, hread]
  | ok value =>
      rw [ofFormText, ofJson, readWith_of_read hread, readWith_of_read hread]
      cases value with
      | object members => exact absurd hread (h members)
      | null | boolean | number | string | array => rfl

/-- `WritesPrivateKey text written` says that a text is an object in which the private key is
written so. -/
def WritesPrivateKey (text written : String) : Prop :=
  ∃ members, Json.readText text = .ok (.object members) ∧
    Json.member? KeyField.privateKey.name members = some (.string written)

/-- A text writes its private key in one way only. -/
theorem WritesPrivateKey.unique {text written other : String} (h : WritesPrivateKey text written)
    (hother : WritesPrivateKey text other) : written = other := by
  obtain ⟨members, hread, hmember⟩ := h
  obtain ⟨others, hreadOther, hmemberOther⟩ := hother
  cases hread.symm.trans hreadOther
  cases hmember.symm.trans hmemberOther
  rfl

/-- An object that gives a key writes the private key of that key. -/
theorem writesPrivateKey_of_ofJson {text : String} {members : Members} {key : ServiceAccountKey}
    (hread : Json.readText text = .ok (.object members)) (h : ofJson text = .ok key) :
    WritesPrivateKey text key.privateKey := by
  rw [ofJson, readWith_of_read hread, mapError_eq_ok_iff] at h
  exact ⟨members, hread, member?_privateKey_of_ofValue (isSorted_of_read hread) h⟩

/-- Where the form gives a key, the text as it stands gives the same key with the private key that
is written in it. -/
theorem ofJson_of_ofFormText {text : String} {key : ServiceAccountKey}
    (h : ofFormText text = .ok key) :
    (∃ written, WritesPrivateKey text written ∧
      key.privateKey = String.ofList (breakLines written.toList) ∧
      ofJson text = .ok { key with privateKey := written }) ∨
    ((∀ written, ¬ WritesPrivateKey text written) ∧ ofJson text = .ok key) := by
  by_cases hobject : ∃ members, Json.readText text = .ok (.object members)
  · obtain ⟨members, hread⟩ := hobject
    rw [ofFormText_of_object hread, map_eq_ok_iff] at h
    obtain ⟨stored, hstored, rfl⟩ := h
    exact .inl ⟨stored.privateKey, writesPrivateKey_of_ofJson hread hstored, rfl, hstored⟩
  · rw [not_exists] at hobject
    rw [ofFormText_of_not_object hobject] at h
    exact .inr ⟨fun written ⟨members, hread, _⟩ => hobject members hread, h⟩

end ServiceAccountKey

end CloudCredentials
