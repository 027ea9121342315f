import CloudCredentials.Proofs.ServiceAccount.Documents
import CloudCredentials.Text.Separated

/-!
# Line breaks that a connection form writes out

A connection form may write the line breaks of a private key as a backslash and the letter n.
`Mends` says what putting them back makes of a text, and `Escapes` which texts write a given one.
`breakLines_eq_iff_escapes` says that putting line breaks back undoes writing any of them out.
`ofFormText_mends` carries both to key documents. Only the private key of an object is looked at:
`hasWrittenBreak_iff_of_ofFormText` says which keys from a form still have a line break written out.
-/

namespace CloudCredentials

/-- The text has a backslash that is followed by the letter n. -/
def HasWrittenBreak (characters : List Char) : Prop :=
  ['\\', 'n'] <:+: characters

instance (characters : List Char) : Decidable (HasWrittenBreak characters) :=
  inferInstanceAs (Decidable (_ <:+: _))

/-- `Mends written meant` says that every backslash that is followed by the letter n is turned, with
that letter, into a line break: the pieces between them are joined by line breaks in their place. -/
def Mends (written meant : List Char) : Prop :=
  ∃ first pieces, (∀ piece ∈ first :: pieces, ¬ HasWrittenBreak piece) ∧
    written = Text.join ['\\', 'n'] (first :: pieces) ∧ meant = Text.join ['\n'] (first :: pieces)

/-- `Escapes written meant` says that a text is another one with any of its line breaks written as a
backslash and the letter n. -/
inductive Escapes : (written meant : List Char) → Prop where
  | nil : Escapes [] []
  | escaped {written meant : List Char} (h : Escapes written meant) :
      Escapes ('\\' :: 'n' :: written) ('\n' :: meant)
  | kept (character : Char) {written meant : List Char} (h : Escapes written meant) :
      Escapes (character :: written) (character :: meant)

/-! ## Texts -/

/-- A line break is written out with the first character of a text or after it. -/
theorem hasWrittenBreak_cons (character : Char) (rest : List Char) :
    HasWrittenBreak (character :: rest) ↔
      (character = '\\' ∧ ['n'] <+: rest) ∨ HasWrittenBreak rest := by
  rw [HasWrittenBreak, List.infix_cons_iff, List.cons_prefix_cons, eq_comm (a := '\\')]
  rfl

/-- A line break that is written out is put back. -/
theorem breakLines_mark (rest : List Char) :
    breakLines ('\\' :: 'n' :: rest) = '\n' :: breakLines rest := by
  rw [breakLines, if_pos ⟨rfl, rfl⟩]

/-- A character with which no line break is written out stays. -/
theorem breakLines_cons {character : Char} {rest : List Char}
    (h : ¬ (character = '\\' ∧ ['n'] <+: rest)) :
    breakLines (character :: rest) = character :: breakLines rest := by
  cases rest with
  | nil => rfl
  | cons second rest =>
      rw [breakLines, if_neg]
      rintro ⟨rfl, rfl⟩
      exact h ⟨rfl, List.cons_prefix_cons.2 ⟨rfl, List.nil_prefix⟩⟩

/-- A text begins with a line break that is written out or with a character that stays. -/
theorem breakLines_induction {motive : List Char → Prop} (nil : motive [])
    (mark : ∀ rest, motive rest → motive ('\\' :: 'n' :: rest))
    (cons : ∀ character rest, ¬ (character = '\\' ∧ ['n'] <+: rest) → motive rest →
      motive (character :: rest)) (written : List Char) : motive written := by
  fun_induction breakLines written with
  | case1 => exact nil
  | case2 character => exact cons character [] (by simp) nil
  | case3 first second rest hmark ih =>
      obtain ⟨rfl, rfl⟩ := hmark
      exact mark rest ih
  | case4 first second rest hmark ih =>
      refine cons first (second :: rest) (fun h => hmark ⟨h.1, ?_⟩) ih
      exact (List.cons_prefix_cons.1 h.2).1.symm

/-- Where the line breaks are put back, the letter n stands first only if it did before. -/
theorem n_prefix_of_breakLines {written : List Char} (h : ['n'] <+: breakLines written) :
    ['n'] <+: written := by
  induction written using breakLines_induction with
  | nil => exact h
  | mark rest => simp [breakLines_mark] at h
  | cons character rest hkept =>
      rw [breakLines_cons hkept, List.cons_prefix_cons] at h
      exact List.cons_prefix_cons.2 ⟨h.1, List.nil_prefix⟩

/-- Where the line breaks are put back, none is written out. -/
theorem not_hasWrittenBreak_breakLines (written : List Char) :
    ¬ HasWrittenBreak (breakLines written) := by
  induction written using breakLines_induction with
  | nil => simp [breakLines, HasWrittenBreak]
  | mark rest ih =>
      rw [breakLines_mark, hasWrittenBreak_cons]
      simp [ih]
  | cons character rest hkept ih =>
      rw [breakLines_cons hkept, hasWrittenBreak_cons]
      rintro (⟨hbackslash, hn⟩ | hrest)
      · exact hkept ⟨hbackslash, n_prefix_of_breakLines hn⟩
      · exact ih hrest

/-- Putting line breaks back a second time changes nothing. -/
theorem breakLines_breakLines (written : List Char) :
    breakLines (breakLines written) = breakLines written :=
  (breakLines_eq_self_iff _).2 (not_hasWrittenBreak_breakLines written)

/-- A text may write out the line breaks that are put back in it. -/
theorem escapes_breakLines (written : List Char) : Escapes written (breakLines written) := by
  induction written using breakLines_induction with
  | nil => exact .nil
  | mark rest ih =>
      rw [breakLines_mark]
      exact .escaped ih
  | cons character rest hkept ih =>
      rw [breakLines_cons hkept]
      exact .kept character ih

/-- A text that begins with the letter n is that of one that does. -/
theorem Escapes.n_prefix {written meant : List Char} (h : Escapes written meant)
    (hn : ['n'] <+: written) : ['n'] <+: meant := by
  cases h with
  | nil => exact hn
  | escaped h => simp at hn
  | kept character h =>
      exact List.cons_prefix_cons.2 ⟨(List.cons_prefix_cons.1 hn).1, List.nil_prefix⟩

/-- Line breaks that are written out are put back, if nothing in the text that is meant looks like
one that is written out. -/
theorem Escapes.breakLines_eq {written meant : List Char} (h : Escapes written meant)
    (hmeant : ¬ HasWrittenBreak meant) : breakLines written = meant := by
  induction h with
  | nil => rfl
  | escaped _ ih =>
      rw [hasWrittenBreak_cons, not_or] at hmeant
      rw [breakLines_mark, ih hmeant.2]
  | kept character h ih =>
      rw [hasWrittenBreak_cons, not_or] at hmeant
      rw [breakLines_cons fun hmark => hmeant.1 ⟨hmark.1, h.n_prefix hmark.2⟩, ih hmeant.2]

/-- Putting line breaks back undoes writing any of them out, and nothing else. -/
theorem breakLines_eq_iff_escapes (written meant : List Char) :
    breakLines written = meant ↔ Escapes written meant ∧ ¬ HasWrittenBreak meant := by
  constructor
  · rintro rfl
    exact ⟨escapes_breakLines written, not_hasWrittenBreak_breakLines written⟩
  · rintro ⟨hescapes, hmeant⟩
    exact hescapes.breakLines_eq hmeant

/-- A line break that is written out after a piece without one is put back, and the piece stays. -/
theorem breakLines_append_mark {piece : List Char} (h : ¬ HasWrittenBreak piece)
    (rest : List Char) :
    breakLines (piece ++ (['\\', 'n'] ++ rest)) = piece ++ (['\n'] ++ breakLines rest) := by
  induction piece with
  | nil => exact breakLines_mark rest
  | cons character piece ih =>
      rw [hasWrittenBreak_cons, not_or] at h
      have hkept : ¬ (character = '\\' ∧ ['n'] <+: piece ++ (['\\', 'n'] ++ rest)) := by
        rintro ⟨hbackslash, hn⟩
        cases piece with
        | nil => simp at hn
        | cons second piece =>
            exact h.1 ⟨hbackslash, List.cons_prefix_cons.2
              ⟨(List.cons_prefix_cons.1 hn).1, List.nil_prefix⟩⟩
      rw [List.cons_append, breakLines_cons hkept, ih h.2]
      rfl

/-- A text whose written line breaks are put back is left no choice. -/
theorem Mends.breakLines_eq {written meant : List Char} (h : Mends written meant) :
    breakLines written = meant := by
  obtain ⟨first, pieces, hpieces, rfl, rfl⟩ := h
  induction pieces generalizing first with
  | nil =>
      rw [Text.join_singleton, Text.join_singleton]
      exact (breakLines_eq_self_iff first).2 (hpieces first List.mem_cons_self)
  | cons second pieces ih =>
      obtain ⟨hfirst, hothers⟩ := List.forall_mem_cons.1 hpieces
      rw [Text.join_cons_cons, Text.join_cons_cons, breakLines_append_mark hfirst,
        ih second hothers]

/-- Every line break that is written out is put back. -/
theorem mends_breakLines (written : List Char) : Mends written (breakLines written) := by
  induction written using breakLines_induction with
  | nil => exact ⟨[], [], by simp [HasWrittenBreak], rfl, rfl⟩
  | mark rest ih =>
      obtain ⟨first, pieces, hpieces, hrest, hmeant⟩ := ih
      refine ⟨[], first :: pieces, ?_, ?_, ?_⟩
      · exact List.forall_mem_cons.2 ⟨by simp [HasWrittenBreak], hpieces⟩
      · rw [Text.join_cons_cons, ← hrest]
        rfl
      · rw [breakLines_mark, Text.join_cons_cons, ← hmeant]
        rfl
  | cons character rest hkept ih =>
      obtain ⟨first, pieces, hpieces, hrest, hmeant⟩ := ih
      obtain ⟨hfirst, hothers⟩ := List.forall_mem_cons.1 hpieces
      refine ⟨character :: first, pieces, ?_, ?_, ?_⟩
      · refine List.forall_mem_cons.2 ⟨?_, hothers⟩
        rw [hasWrittenBreak_cons, not_or]
        refine ⟨fun hmark => hkept ⟨hmark.1, hmark.2.trans ?_⟩, hfirst⟩
        rw [hrest]
        cases pieces with
        | nil => rw [Text.join_singleton]
        | cons second pieces => exact Text.join_cons_cons .. ▸ List.prefix_append _ _
      · rw [Text.join_cons, ← hrest]
      · rw [breakLines_cons hkept, Text.join_cons, ← hmeant]

/-- Putting line breaks back is turning every one that is written out into one. -/
theorem breakLines_eq_iff_mends (written meant : List Char) :
    breakLines written = meant ↔ Mends written meant := by
  constructor
  · rintro rfl
    exact mends_breakLines written
  · exact Mends.breakLines_eq

namespace ServiceAccountKey

open Json (Members Value HoldsObject HoldsArray)

/-! ## Documents -/

/-- Putting the line breaks of a document back a second time changes nothing. -/
theorem withLineBreaks_withLineBreaks (value : Value) :
    withLineBreaks (withLineBreaks value) = withLineBreaks value := by
  cases value with
  | object members =>
      by_cases hstring : ∃ written,
          Json.member? KeyField.privateKey.name members = some (.string written)
      · obtain ⟨written, hwritten⟩ := hstring
        rw [withLineBreaks_of_string hwritten,
          withLineBreaks_of_string (Json.member?_putMember_self _ _ _), String.toList_ofList,
          breakLines_breakLines, Json.putMember_putMember]
      · rw [withLineBreaks_of_not_string hstring, withLineBreaks_of_not_string hstring]
  | null | boolean | number | string | array => rfl

/-- Two outcomes are the same failure, or keys that differ in the private key at most. -/
inductive AgreeButPrivateKey : (left right : Except Error ServiceAccountKey) → Prop where
  | failures (error : Error) : AgreeButPrivateKey (.error error) (.error error)
  | keys (key : ServiceAccountKey) (privateKey : String) :
      AgreeButPrivateKey (.ok key) (.ok (key.withPrivateKey privateKey))

variable {text : String}

/-- From an object the form gives the key with its line breaks put back. -/
theorem ofFormText_of_holdsObject {written : Members} (h : HoldsObject text written) :
    ofFormText text = (ofJson text).map mended :=
  ofFormText_of_object ((Json.readText_eq_object_iff text _).2 ⟨written, h, rfl⟩)

/-- From every other text the form gives the key as it stands. -/
theorem ofFormText_of_not_holdsObject (h : ¬ ∃ written, HoldsObject text written) :
    ofFormText text = ofJson text := by
  refine ofFormText_of_not_object fun members hread => h ?_
  obtain ⟨written, hwritten, _⟩ := (Json.readText_eq_object_iff text members).1 hread
  exact ⟨written, hwritten⟩

/-- A text and the same text from a form fail alike, or give the same key but for the private
key. -/
theorem agreeButPrivateKey_ofFormText (text : String) :
    AgreeButPrivateKey (ofJson text) (ofFormText text) := by
  by_cases hobject : ∃ written, HoldsObject text written
  · obtain ⟨written, hwritten⟩ := hobject
    rw [ofFormText_of_holdsObject hwritten]
    cases ofJson text with
    | error error => exact .failures error
    | ok key => exact .keys key _
  · rw [ofFormText_of_not_holdsObject hobject]
    cases ofJson text with
    | error error => exact .failures error
    | ok key => exact .keys key key.privateKey

/-- From an object the form gives a private key exactly if it is that of the object with the line
breaks put back. -/
theorem ofFormText_eq_ok_iff_of_holdsObject {written : Members} {key : ServiceAccountKey}
    (h : HoldsObject text written) (hkey : ofJson text = .ok key) (meant : String) :
    ofFormText text = .ok (key.withPrivateKey meant) ↔
      breakLines key.privateKey.toList = meant.toList := by
  rw [ofFormText_of_holdsObject h, hkey]
  simp only [Except.map, mended, withPrivateKey, Except.ok.injEq, ServiceAccountKey.mk.injEq,
    true_and]
  rw [← String.toList_inj, String.toList_ofList]

/-- The text of a key document and the same text from a form fail alike, or give the same key but
for the private key. Of an object, the form gives the private key in which every line break that is
written out is put back, and this is the one that was meant, whichever of its line breaks were
written out. Putting line breaks back a second time changes nothing. -/
theorem ofFormText_mends :
    (∀ text, AgreeButPrivateKey (ofJson text) (ofFormText text) ∧
      ∀ written key, HoldsObject text written → ofJson text = .ok key → ∀ meant : String,
        (ofFormText text = .ok (key.withPrivateKey meant) ↔
          Mends key.privateKey.toList meant.toList) ∧
        (¬ HasWrittenBreak meant.toList → Escapes key.privateKey.toList meant.toList →
          ofFormText text = .ok (key.withPrivateKey meant))) ∧
    (∀ value, withLineBreaks (withLineBreaks value) = withLineBreaks value) ∧
    ∀ written, breakLines (breakLines written) = breakLines written := by
  refine ⟨fun text => ⟨agreeButPrivateKey_ofFormText text, ?_⟩, withLineBreaks_withLineBreaks,
    breakLines_breakLines⟩
  intro written key hwritten hkey meant
  rw [ofFormText_eq_ok_iff_of_holdsObject hwritten hkey]
  refine ⟨breakLines_eq_iff_mends _ _, fun hmeant hescapes => ?_⟩
  exact (breakLines_eq_iff_escapes _ _).2 ⟨hescapes, hmeant⟩

/-- A private key in which one line break is written out, after a backslash, and one is not, is read
from an object as the private key that was meant. -/
theorem ofFormText_mends_of_mixture :
    let stored : ServiceAccountKey := ⟨none, none, none, "e", none, none, "a\\\\nb\nc"⟩
    let written : Members :=
      [("private_key", .string stored.privateKey), ("client_email", .string "e")]
    HoldsObject (Value.object written).text written ∧
      ofJson (Value.object written).text = .ok stored ∧
      Escapes stored.privateKey.toList "a\\\nb\nc".toList ∧ ¬ HasWrittenBreak "a\\\nb\nc".toList ∧
      ofFormText (Value.object written).text = .ok (stored.withPrivateKey "a\\\nb\nc") := by
  intro stored written
  have hwritten : HoldsObject (Value.object written).text written := by
    apply Json.holdsObject_text
    simp only [written, List.forall_mem_cons]
    exact ⟨Json.Value.string_readsBack _ _, Json.Value.string_readsBack _ _, List.forall_mem_nil _⟩
  have hkey : ofJson (Value.object written).text = .ok stored := by
    refine (ofJson_object_eq_ok_iff hwritten stored).2 fun field => ?_
    cases field with
    | privateKey | clientEmail => exact .text _
    | kind | projectId | privateKeyId | clientId | tokenUri => exact .absent rfl
  have hcharacters :
      Escapes ['a', '\\', '\\', 'n', 'b', '\n', 'c'] ['a', '\\', '\n', 'b', '\n', 'c'] :=
    .kept 'a' (.kept '\\' (.escaped (.kept 'b' (.kept '\n' (.kept 'c' .nil)))))
  have hescapes : Escapes stored.privateKey.toList "a\\\nb\nc".toList := by
    simpa [stored] using hcharacters
  have hmeant : ¬ HasWrittenBreak "a\\\nb\nc".toList := by decide
  exact ⟨hwritten, hkey, hescapes, hmeant,
    ((ofFormText_mends.1 _).2 written stored hwritten hkey _).2 hmeant hescapes⟩

/-- A key from a form has a line break written out exactly if it comes from an array with a private
key like that. -/
theorem hasWrittenBreak_iff_of_ofFormText {key : ServiceAccountKey}
    (h : ofFormText text = .ok key) :
    HasWrittenBreak key.privateKey.toList ↔
      ∃ items written, HoldsArray text items ∧
        items[KeyField.privateKey.place]? = some (.string written) ∧
        HasWrittenBreak written.toList := by
  by_cases hobject : ∃ written, HoldsObject text written
  · obtain ⟨written, hwritten⟩ := hobject
    rw [ofFormText_of_holdsObject hwritten, map_eq_ok_iff] at h
    obtain ⟨stored, _, rfl⟩ := h
    refine iff_of_false ?_ ?_
    · rw [mended, withPrivateKey, String.toList_ofList]
      exact not_hasWrittenBreak_breakLines _
    · rintro ⟨items, _, hitems, _⟩
      exact hwritten.not_holdsArray hitems
  · rw [ofFormText_of_not_holdsObject hobject, ofJson_eq_ok_iff] at h
    cases h with
    | object written hwritten htexts => exact absurd ⟨written, hwritten⟩ hobject
    | array items hitems hlength htexts =>
        have hwritten := (htexts .privateKey).eq_string
        constructor
        · exact fun hbreak => ⟨items, key.privateKey, hitems, hwritten, hbreak⟩
        · rintro ⟨others, other, hothers, hother, hbreak⟩
          rw [hothers.unique hitems] at hother
          cases hwritten.symm.trans hother
          exact hbreak

/-- A form leaves the line break in the private key of this array as it is. -/
theorem ofFormText_of_items :
    ofFormText "[null,null,null,\"a\\\\nb\",\"svc@example.com\"]" =
      .ok ⟨none, none, none, "svc@example.com", none, none, "a\\nb"⟩ := by
  rw [← toOption_eq_some_iff]
  decide +kernel

/-- The key of an array with a line break written out has it still. -/
theorem hasWrittenBreak_iff_of_items :
    let text := "[null,null,null,\"a\\\\nb\",\"svc@example.com\"]"
    let key : ServiceAccountKey := ⟨none, none, none, "svc@example.com", none, none, "a\\nb"⟩
    ofFormText text = .ok key ∧ HasWrittenBreak key.privateKey.toList ∧
      ∃ items written, HoldsArray text items ∧
        items[KeyField.privateKey.place]? = some (.string written) ∧
        HasWrittenBreak written.toList := by
  intro text key
  have hbreak : HasWrittenBreak key.privateKey.toList := by decide
  exact ⟨ofFormText_of_items, hbreak,
    (hasWrittenBreak_iff_of_ofFormText ofFormText_of_items).1 hbreak⟩

/-- Not every key from a form is without a line break that is written out. -/
theorem not_forall_not_hasWrittenBreak :
    ¬ ∀ text key, ofFormText text = .ok key → ¬ HasWrittenBreak key.privateKey.toList := by
  intro h
  exact h _ _ ofFormText_of_items (by decide)

end ServiceAccountKey

end CloudCredentials
