import CloudCredentials.Connection.Document
import CloudCredentials.Proofs.Json.Contents
import CloudCredentials.Proofs.Json.Records

/-!
# Which texts are stored connections

A stored connection is a JSON document whose extra fields are an object, or a string that is itself
the text of one, or nothing. `StoresExtras` says so in terms of the two documents as they are
written. `ofDocument_accepts` says that exactly these texts describe connections, under every
identifier, and that every other text is refused with the identifier.
-/

namespace CloudCredentials

open Json (Members Tree Value)

namespace Connection

/-- `HoldsExtra text found` says what the document with a text holds under `extra`: a member or the
only item of an array, if it is there. -/
def HoldsExtra (text : String) (found : Option Tree) : Prop :=
  ∃ tree : Tree, tree.WrittenAs (Bytes.ofText text) ∧ tree.Holds "extra" found

/-- The extra fields that may be written in a document. An object is one level inside of the
document; the object in a string is a document of its own, with nothing but blanks around it. -/
inductive IsExtras : Option Tree → Members → Prop where
  | absent : IsExtras none []
  | null : IsExtras (some .null) []
  | object (tree : Tree) (members : Members)
      (hvalue : tree.value? (Json.greatestDepth - 1) = some (.object members)) :
      IsExtras (some tree) members
  | emptyText (pieces : List Json.Piece) (htext : Json.pieceText pieces = some "") :
      IsExtras (some (.string pieces)) []
  | encoded (pieces : List Json.Piece) (inner : String) (tree : Tree) (members : Members)
      (htext : Json.pieceText pieces = some inner) (hwritten : tree.WrittenAs (Bytes.ofText inner))
      (hvalue : tree.value? Json.greatestDepth = some (.object members)) :
      IsExtras (some (.string pieces)) members

/-- The text is that of a document with these extra fields. -/
def StoresExtras (text : String) (extras : Members) : Prop :=
  ∃ found, HoldsExtra text found ∧ IsExtras found extras

/-- Nothing is read under `extra` where the document holds nothing there. -/
theorem readExtra_eq_none_iff (text : String) :
    readExtra text = .ok none ↔ HoldsExtra text none := by
  have hrecord := Json.readRecord_eq_ok_iff "extra" (Bytes.ofText text)
  constructor
  · intro h
    rw [readExtra] at h
    split at h
    · cases h
    · split at h <;> cases h
    · next trees hsome hread =>
        obtain ⟨tree, found, hwritten, hholds, rfl⟩ := (hrecord trees).1 hread
        cases found with
        | none => exact ⟨tree, hwritten, hholds⟩
        | some held => exact (hsome held rfl).elim
  · rintro ⟨tree, hwritten, hholds⟩
    rw [readExtra, (hrecord _).2 ⟨tree, none, hwritten, hholds, rfl⟩]

/-- The value of what the document holds under `extra` is read, one level inside of it. -/
theorem readExtra_eq_some_iff (text : String) (value : Value) :
    readExtra text = .ok (some value) ↔
      ∃ held, HoldsExtra text (some held) ∧
        held.value? (Json.greatestDepth - 1) = some value := by
  have hrecord := Json.readRecord_eq_ok_iff "extra" (Bytes.ofText text)
  constructor
  · intro h
    rw [readExtra] at h
    split at h
    · cases h
    · next held hread =>
        obtain ⟨tree, found, hwritten, hholds, hfound⟩ := (hrecord _).1 hread
        obtain rfl : some held = found := List.head_eq_of_cons_eq hfound
        split at h
        · next hvalue =>
            cases h
            exact ⟨held, ⟨tree, hwritten, hholds⟩, hvalue⟩
        · cases h
    · cases h
  · rintro ⟨held, ⟨tree, hwritten, hholds⟩, hvalue⟩
    rw [readExtra, (hrecord _).2 ⟨tree, some held, hwritten, hholds, rfl⟩]
    simp only [hvalue]

/-- A text under `extra` holds extra fields if it is empty or the text of an object. -/
theorem extrasOf_string_iff (text : String) (extras : Members) :
    extrasOf (some (.string text)) = some extras ↔
      text = "" ∧ extras = [] ∨ Json.readText text = .ok (.object extras) := by
  by_cases hempty : text = ""
  · have hunread : ∀ value, Json.readText "" ≠ .ok value := by
      intro value
      simp [show Json.readText "" = .error .malformed from rfl]
    subst hempty
    simp [extrasOf, hunread, eq_comm]
  · simp only [extrasOf, hempty, if_false, false_and, false_or]
    split
    · next members hread => simp [hread]
    · next hnone =>
        simp only [reduceCtorEq, false_iff]
        exact hnone extras

/-- The extra fields that a text stores are read from it. -/
theorem StoresExtras.exists_read {text : String} {extras : Members} (h : StoresExtras text extras) :
    ∃ extra, readExtra text = .ok extra ∧ extrasOf extra = some extras := by
  obtain ⟨found, hholds, hextras⟩ := h
  cases hextras with
  | absent => exact ⟨none, (readExtra_eq_none_iff text).2 hholds, rfl⟩
  | null => exact ⟨_, (readExtra_eq_some_iff text _).2 ⟨_, hholds, rfl⟩, rfl⟩
  | object tree members hvalue =>
      exact ⟨_, (readExtra_eq_some_iff text _).2 ⟨tree, hholds, hvalue⟩, rfl⟩
  | emptyText pieces htext =>
      have hvalue := (Json.value?_eq_string_iff (Json.greatestDepth - 1) _ "").2
        ⟨pieces, rfl, htext⟩
      exact ⟨_, (readExtra_eq_some_iff text _).2 ⟨_, hholds, hvalue⟩, rfl⟩
  | encoded pieces inner tree members htext hwritten hinner =>
      have hvalue := (Json.value?_eq_string_iff (Json.greatestDepth - 1) _ inner).2
        ⟨pieces, rfl, htext⟩
      have hread := (Json.readText_eq_ok_iff inner _).2 ⟨tree, hwritten, hinner⟩
      exact ⟨_, (readExtra_eq_some_iff text _).2 ⟨_, hholds, hvalue⟩,
        (extrasOf_string_iff inner extras).2 (.inr hread)⟩

/-- The extra fields that are read from a text are stored in it. -/
theorem storesExtras_of_read {text : String} {extra : Option Value} {extras : Members}
    (hread : readExtra text = .ok extra) (hextras : extrasOf extra = some extras) :
    StoresExtras text extras := by
  cases extra with
  | none =>
      cases hextras
      exact ⟨none, (readExtra_eq_none_iff text).1 hread, .absent⟩
  | some value =>
      obtain ⟨held, hholds, hvalue⟩ := (readExtra_eq_some_iff text value).1 hread
      refine ⟨some held, hholds, ?_⟩
      cases value with
      | null =>
          cases hextras
          obtain rfl := (Json.value?_eq_null_iff _ held).1 hvalue
          exact .null
      | object members =>
          cases hextras
          exact .object held extras hvalue
      | string inner =>
          obtain ⟨pieces, rfl, htext⟩ := (Json.value?_eq_string_iff _ held inner).1 hvalue
          rcases (extrasOf_string_iff inner extras).1 hextras with ⟨rfl, rfl⟩ | hinner
          · exact .emptyText pieces htext
          · obtain ⟨tree, hwritten, hobject⟩ := (Json.readText_eq_ok_iff inner _).1 hinner
            exact .encoded pieces inner tree extras htext hwritten hobject
      | boolean value => cases hextras
      | number value => cases hextras
      | array items => cases hextras

/-- `Refuses identifier error` says that an error is the refusal of the document of a connection,
and names that connection. -/
inductive Refuses (identifier : String) : Error → Prop where
  /-- The text is no document of one field, or what is under `extra` is no value. -/
  | unreadable (fault : Json.Fault) :
      Refuses identifier (.configuration
        (.unreadable ("connection " ++ identifier ++ " is not valid JSON: ") fault))
  /-- What is under `extra` is not extra fields. -/
  | noExtras :
      Refuses identifier (.configuration
        (.stated ("extra of connection " ++ identifier ++ " is not a JSON object")))

/-- A document describes the connection of the extra fields that are read from it. -/
theorem ofDocument_eq_ok (identifier : String) {text : String} {extra : Option Value}
    {extras : Members} (hread : readExtra text = .ok extra) (hextras : extrasOf extra = some extras) :
    ofDocument identifier text = .ok (ofExtras extras) := by
  simp only [ofDocument, hread, hextras]

/-- A document is refused by name, or extra fields are read from it. -/
theorem refuses_or_reads {identifier text : String} {outcome : Except Error Connection}
    (h : ofDocument identifier text = outcome) :
    (∃ error, outcome = .error error ∧ Refuses identifier error) ∨
      ∃ extras, StoresExtras text extras ∧ outcome = .ok (ofExtras extras) := by
  subst h
  cases hread : readExtra text with
  | error fault => exact .inl ⟨_, by simp only [ofDocument, hread], .unreadable fault⟩
  | ok extra =>
      cases hextras : extrasOf extra with
      | none => exact .inl ⟨_, by simp only [ofDocument, hread, hextras], .noExtras⟩
      | some extras =>
          exact .inr ⟨extras, storesExtras_of_read hread hextras,
            ofDocument_eq_ok identifier hread hextras⟩

/-- A text describes a connection exactly if it stores extra fields, and then the connection of
these, whatever identifier it is looked up under. Every other text is refused with the
identifier. -/
theorem ofDocument_accepts (identifier text : String) :
    (∀ connection, ofDocument identifier text = .ok connection ↔
      ∃ extras, StoresExtras text extras ∧ connection = ofExtras extras) ∧
    ∀ error, ofDocument identifier text = .error error → Refuses identifier error := by
  constructor
  · intro connection
    constructor
    · intro h
      rcases refuses_or_reads h with ⟨_, herror, _⟩ | ⟨extras, hstores, hconnection⟩
      · cases herror
      · exact ⟨extras, hstores, Except.ok.inj hconnection⟩
    · rintro ⟨extras, hstores, rfl⟩
      obtain ⟨extra, hread, hextras⟩ := hstores.exists_read
      exact ofDocument_eq_ok identifier hread hextras
  · intro error h
    rcases refuses_or_reads h with ⟨_, herror, hrefuses⟩ | ⟨_, _, hconnection⟩
    · cases herror
      exact hrefuses
    · cases hconnection

-- A string may hold an object with blanks around it, and no null.
example : (ofDocument "gcp" "[\" \x7b\x7d \"]").toOption = some (ofExtras []) := by decide +kernel

example : (ofDocument "gcp" "[\"null\"]").isOk = false := by decide +kernel

end Connection

end CloudCredentials
