import CloudCredentials.Proofs.ServiceAccount.Keys

/-!
# Which texts are keys

A key is written as an object or as an array. `HoldsKey` says which documents hold which key, and
`Refused` why every other text is refused, both in terms of the members and items as they are
written. `ofJson_accepts` says that a text is read or refused exactly so. Of an object only the last
member with each name of a field matters.
-/

namespace CloudCredentials.ServiceAccountKey

open Json (Members Value HoldsValue HoldsObject HoldsArray lastMember?)

/-- `HoldsKey text key` says that a text is that of a document with a key: an object in which the
fields are the last members with their names, or an array in which they are the items in their
places. -/
inductive HoldsKey (text : String) (key : ServiceAccountKey) : Prop where
  | object (written : Members) (hwritten : HoldsObject text written)
      (htexts : HasTexts (fun field => lastMember? field.name written) key)
  | array (items : List Value) (hitems : HoldsArray text items)
      (hlength : 5 ≤ items.length ∧ items.length ≤ 7)
      (htexts : HasTexts (fun field => items[field.place]?) key)

/-- `Refused text error` says why a text holds no key. -/
inductive Refused (text : String) : Error → Prop where
  /-- The text is not that of one document, or the document is beyond the limits. -/
  | unreadable (hnone : ∀ value, ¬ HoldsValue text value) :
      Refused text (.invalidKeyJson (.unreadable "" .malformed))
  /-- The members of an object have a fault. -/
  | members (written : Members) (hwritten : HoldsObject text written) (fault : KeyFault)
      (hfault : FieldFault KeyField.NamedBefore (fun field => lastMember? field.name written)
        (fun field => .missing field.name) fault) :
      Refused text (.malformedServiceAccount fault)
  /-- The items of an array have a fault. -/
  | items (items : List Value) (hitems : HoldsArray text items) (fault : KeyFault)
      (hfault : FieldFault KeyField.PlacedBefore (fun field => items[field.place]?)
        (fun field => .tooFew field.place) fault) :
      Refused text (.malformedServiceAccount fault)
  /-- An array without such a fault goes on after the last field. -/
  | tooMany (items : List Value) (hitems : HoldsArray text items) (hlength : 7 < items.length)
      (hsuits : AllSuit fun field => items[field.place]?) :
      Refused text (.malformedServiceAccount (.tooMany items.length))
  /-- The document is neither an object nor an array. -/
  | scalar (value : Value) (hvalue : HoldsValue text value)
      (hobject : ∀ members, value ≠ .object members) (harray : ∀ items, value ≠ .array items) :
      Refused text (.malformedServiceAccount (.notRecord value))

/-- An object has the same fields as another if each has the same last value in both. The order of
members, earlier members with the same name and members with other names do not matter to that. -/
def SameFields (written other : Members) : Prop :=
  ∀ field : KeyField, lastMember? field.name written = lastMember? field.name other

/-- The key of a text is that of its document. -/
theorem ofJson_of_read {text : String} {value : Value} (h : Json.readText text = .ok value) :
    ofJson text = (ofValue value).mapError .malformedServiceAccount :=
  readWith_of_read h id

/-- A text without a document is refused as unreadable. -/
theorem ofJson_of_unread {text : String} {fault : Json.Fault}
    (h : Json.readText text = .error fault) :
    ofJson text = .error (.invalidKeyJson (.unreadable "" fault)) := by
  rw [ofJson, readWith, h]

variable {text : String}

/-- An object gives the key that has the texts of its last members. -/
theorem ofJson_object_eq_ok_iff {written : Members} (h : HoldsObject text written)
    (key : ServiceAccountKey) :
    ofJson text = .ok key ↔ HasTexts (fun field => lastMember? field.name written) key := by
  have hread := (Json.readText_eq_object_iff text _).2 ⟨written, h, rfl⟩
  rw [ofJson_of_read hread, mapError_eq_ok_iff,
    ofValue_object_eq_ok_iff (Json.isSorted_keptMembers written)]
  simp only [Json.member?_keptMembers]

/-- An object that gives no key has the fault of its last members, in the order of their names. -/
theorem ofJson_object_eq_error_iff {written : Members} (h : HoldsObject text written)
    (error : Error) :
    ofJson text = .error error ↔
      ∃ fault, FieldFault KeyField.NamedBefore (fun field => lastMember? field.name written)
        (fun field => .missing field.name) fault ∧ .malformedServiceAccount fault = error := by
  have hread := (Json.readText_eq_object_iff text _).2 ⟨written, h, rfl⟩
  rw [ofJson_of_read hread, mapError_eq_error_iff]
  simp only [ofValue_object_eq_error_iff (Json.isSorted_keptMembers written),
    Json.member?_keptMembers]

/-- A key in an array takes five items at least. -/
theorem HasTexts.five_le {items : List Value} {key : ServiceAccountKey}
    (h : HasTexts (fun field => items[field.place]?) key) : 5 ≤ items.length := by
  obtain ⟨hplace, _⟩ := List.getElem?_eq_some_iff.1 (h .clientEmail).eq_string
  exact hplace

/-- A text gives a key exactly if it holds the key. -/
theorem ofJson_eq_ok_iff (text : String) (key : ServiceAccountKey) :
    ofJson text = .ok key ↔ HoldsKey text key := by
  constructor
  · intro h
    cases hread : Json.readText text with
    | error fault =>
        rw [ofJson_of_unread hread] at h
        cases h
    | ok value =>
        cases value with
        | object members =>
            obtain ⟨written, hwritten, _⟩ := (Json.readText_eq_object_iff text members).1 hread
            exact .object written hwritten ((ofJson_object_eq_ok_iff hwritten key).1 h)
        | array items =>
            rw [ofJson_of_read hread, mapError_eq_ok_iff, ofValue_array_eq_ok_iff] at h
            exact .array items ((Json.readText_eq_array_iff text items).1 hread)
              ⟨h.2.five_le, h.1⟩ h.2
        | null | boolean | number | string =>
            rw [ofJson_of_read hread] at h
            cases h
  · intro h
    cases h with
    | object written hwritten htexts => exact (ofJson_object_eq_ok_iff hwritten key).2 htexts
    | array items hitems hlength htexts =>
        rw [ofJson_of_read ((Json.readText_eq_array_iff text items).2 hitems),
          mapError_eq_ok_iff, ofValue_array_eq_ok_iff]
        exact ⟨hlength.2, htexts⟩

/-- A text is refused with the error that says why it holds no key. -/
theorem ofJson_eq_error_iff (text : String) (error : Error) :
    ofJson text = .error error ↔ Refused text error := by
  constructor
  · intro h
    cases hread : Json.readText text with
    | error fault =>
        rw [ofJson_of_unread hread] at h
        cases h
        obtain ⟨rfl, hnone⟩ := (Json.readText_eq_error_iff text fault).1 hread
        exact .unreadable hnone
    | ok value =>
        have hvalue := (Json.readText_eq_ok_iff text value).1 hread
        cases value with
        | object members =>
            obtain ⟨written, hwritten, _⟩ := (Json.readText_eq_object_iff text members).1 hread
            obtain ⟨fault, hfault, rfl⟩ := (ofJson_object_eq_error_iff hwritten error).1 h
            exact .members written hwritten fault hfault
        | array items =>
            have hitems := (Json.readText_eq_array_iff text items).1 hread
            rw [ofJson_of_read hread, mapError_eq_error_iff] at h
            obtain ⟨fault, hfault, rfl⟩ := h
            rcases (ofValue_array_eq_error_iff items fault).1 hfault with
              hfault | ⟨hlength, hsuits, rfl⟩
            · exact .items items hitems fault hfault
            · exact .tooMany items hitems hlength hsuits
        | null | boolean | number | string =>
            rw [ofJson_of_read hread] at h
            cases h
            exact .scalar _ hvalue (by simp) (by simp)
  · intro h
    cases h with
    | unreadable hnone =>
        exact ofJson_of_unread ((Json.readText_eq_error_iff text _).2 ⟨rfl, hnone⟩)
    | members written hwritten fault hfault =>
        exact (ofJson_object_eq_error_iff hwritten _).2 ⟨fault, hfault, rfl⟩
    | items items hitems fault hfault =>
        rw [ofJson_of_read ((Json.readText_eq_array_iff text items).2 hitems),
          mapError_eq_error_iff]
        exact ⟨fault, (ofValue_array_eq_error_iff items fault).2 (.inl hfault), rfl⟩
    | tooMany items hitems hlength hsuits =>
        rw [ofJson_of_read ((Json.readText_eq_array_iff text items).2 hitems),
          mapError_eq_error_iff]
        exact ⟨_, (ofValue_array_eq_error_iff items _).2 (.inr ⟨hlength, hsuits, rfl⟩), rfl⟩
    | scalar value hvalue hobject harray =>
        rw [ofJson_of_read ((Json.readText_eq_ok_iff text value).2 hvalue)]
        cases value with
        | object members => exact absurd rfl (hobject members)
        | array items => exact absurd rfl (harray items)
        | null | boolean | number | string => rfl

/-- Objects with the same fields are read alike. -/
theorem ofJson_congr {other : String} {written otherWritten : Members}
    (h : HoldsObject text written) (hother : HoldsObject other otherWritten)
    (hsame : SameFields written otherWritten) : ofJson text = ofJson other := by
  have hvalues : (fun field : KeyField => lastMember? field.name written) =
      fun field => lastMember? field.name otherWritten := funext hsame
  cases houtcome : ofJson text with
  | ok key =>
      have htexts := (ofJson_object_eq_ok_iff h key).1 houtcome
      exact ((ofJson_object_eq_ok_iff hother key).2 (hvalues ▸ htexts)).symm
  | error error =>
      have hfault := (ofJson_object_eq_error_iff h error).1 houtcome
      exact ((ofJson_object_eq_error_iff hother error).2 (hvalues ▸ hfault)).symm

/-- A text gives a key exactly if it holds the key, and is refused exactly with the error that says
why it holds none. Objects with the same fields come to the same. The fields have these names, in the
order of their places in an array. -/
theorem ofJson_accepts (text : String) :
    KeyField.all.map KeyField.name = ["type", "project_id", "private_key_id", "private_key",
      "client_email", "client_id", "token_uri"] ∧
    (∀ key, ofJson text = .ok key ↔ HoldsKey text key) ∧
    (∀ error, ofJson text = .error error ↔ Refused text error) ∧
    ∀ written other otherWritten, HoldsObject text written → HoldsObject other otherWritten →
      SameFields written otherWritten → ofJson text = ofJson other :=
  ⟨rfl, ofJson_eq_ok_iff text, ofJson_eq_error_iff text, fun _ _ _ h hother hsame =>
    ofJson_congr h hother hsame⟩

/-- An object in another order, with an earlier member of another kind and with a member that is no
field, gives the same key. -/
theorem ofJson_accepts_of_reordered :
    let written : Members := [("private_key", .string "k"), ("client_email", .string "e")]
    let other : Members := [("client_email", .boolean true), ("note", .array []),
      ("client_email", .string "e"), ("private_key", .string "k")]
    HoldsObject (Value.object written).text written ∧ HoldsObject (Value.object other).text other ∧
      SameFields written other ∧
      ofJson (Value.object written).text = ofJson (Value.object other).text ∧
      ofJson (Value.object other).text = .ok ⟨none, none, none, "e", none, none, "k"⟩ := by
  intro written other
  have hstring : ∀ text : String, (Value.string text).ReadsBack (Json.greatestDepth - 1) :=
    fun text => Json.Value.string_readsBack text _
  have hboolean : (Value.boolean true).ReadsBack (Json.greatestDepth - 1) :=
    (Value.Proper.boolean true).readsBack (Nat.zero_le _)
  have harray : (Value.array []).ReadsBack (Json.greatestDepth - 1) :=
    Value.array_readsBack (by simp)
  have hwritten : HoldsObject (Value.object written).text written := by
    apply Json.holdsObject_text
    simp only [written, List.forall_mem_cons]
    exact ⟨hstring _, hstring _, List.forall_mem_nil _⟩
  have hother : HoldsObject (Value.object other).text other := by
    apply Json.holdsObject_text
    simp only [other, List.forall_mem_cons]
    exact ⟨hboolean, harray, hstring _, hstring _, List.forall_mem_nil _⟩
  have hsame : SameFields written other := by
    intro field
    cases field <;> rfl
  obtain ⟨_, _, _, hcongr⟩ := ofJson_accepts (Value.object written).text
  refine ⟨hwritten, hother, hsame, hcongr written _ other hwritten hother hsame, ?_⟩
  refine ((ofJson_accepts _).2.1 _).2 (.object other hother fun field => ?_)
  cases field with
  | privateKey => exact .text "k"
  | clientEmail => exact .text "e"
  | kind | projectId | privateKeyId | clientId | tokenUri => exact .absent rfl

end CloudCredentials.ServiceAccountKey
