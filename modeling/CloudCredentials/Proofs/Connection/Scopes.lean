import CloudCredentials.Connection.Scope
import CloudCredentials.Proofs.Text.Ends

/-!
# What a scope text lists

`Lists text entries` says that a text has these entries between its commas, with any blanks around
them and any fields without an entry among them. A text lists one list of entries only, the one
that `pieces` finds, so texts that differ in blanks and empty fields only are read alike.
`parse_reads` says which scopes are read of a text, what holds of each of them, and what comes of
two texts with a comma between them and of the scopes when they are written out again.
-/

namespace CloudCredentials.Scope

open Text (Blank Trimmed trim)

/-- An entry is not empty, holds no comma, and neither starts nor ends with a blank. -/
structure IsEntry (entry : List Char) : Prop where
  ne_nil : entry ≠ []
  comma_not_mem : ',' ∉ entry
  trimmed : Trimmed entry

/-- `Field field entry` says which entry stands between two commas, if any. -/
inductive Field : List Char → Option (List Char) → Prop where
  | entry {before entry after : List Char} (hbefore : Blank before) (h : IsEntry entry)
      (hafter : Blank after) : Field (before ++ entry ++ after) (some entry)
  | blank {field : List Char} (h : Blank field) : Field field none

/-- `Lists text entries` says that a text is fields with commas between them, and which entries
stand there in order. -/
inductive Lists : List Char → List (List Char) → Prop where
  | last {field : List Char} {entry : Option (List Char)} (h : Field field entry) :
      Lists field entry.toList
  | more {field rest : List Char} {entry : Option (List Char)} {entries : List (List Char)}
      (h : Field field entry) (hrest : Lists rest entries) :
      Lists (field ++ ',' :: rest) (entry.toList ++ entries)

/-- There is nothing but commas and blanks in the text. -/
def Vacant (text : List Char) : Prop :=
  ∀ character ∈ text, character = ',' ∨ Text.isBlank character = true

instance (text : List Char) : Decidable (Vacant text) :=
  List.decidableBAll (fun character => character = ',' ∨ Text.isBlank character = true) text

/-- `Reads text scopes` says which scopes are read of a connection's text: those that it lists, and
where it lists none the scope that grants everything. -/
inductive Reads : Option String → List String → Prop where
  | absent : Reads none ["https://www.googleapis.com/auth/cloud-platform"]
  | vacant (text : String) (h : Vacant text.toList) :
      Reads (some text) ["https://www.googleapis.com/auth/cloud-platform"]
  | listed (text : String) (scopes : List String) (hne : scopes ≠ [])
      (h : Lists text.toList (scopes.map String.toList)) : Reads (some text) scopes

/-! ## Fields -/

/-- A comma is not a blank. -/
theorem comma_not_mem_of_blank {text : List Char} (h : Blank text) : ',' ∉ text := by
  intro hcomma
  have hblank := h ',' hcomma
  revert hblank
  decide

/-- A field holds no comma. -/
theorem Field.comma_not_mem {field : List Char} {entry : Option (List Char)}
    (h : Field field entry) : ',' ∉ field := by
  cases h with
  | entry hbefore h hafter =>
      simp only [List.mem_append, not_or]
      exact ⟨⟨comma_not_mem_of_blank hbefore, h.comma_not_mem⟩, comma_not_mem_of_blank hafter⟩
  | blank h => exact comma_not_mem_of_blank h

/-- What a field is trimmed to is its entry, or nothing. -/
theorem Field.trim_eq {field : List Char} {entry : Option (List Char)} (h : Field field entry) :
    trim field = entry.getD [] := by
  cases h with
  | entry hbefore h hafter => exact Text.trim_append hbefore h.trimmed hafter
  | blank h => exact (Text.trim_eq_nil_iff _).2 h

/-- A text without commas is a field. -/
theorem exists_field {field : List Char} (h : ',' ∉ field) : ∃ entry, Field field entry := by
  obtain ⟨before, after, hfield, hbefore, htrimmed, hafter⟩ :=
    (Text.trim_eq_iff field _).1 rfl
  by_cases hne : trim field = []
  · exact ⟨none, .blank ((Text.trim_eq_nil_iff field).1 hne)⟩
  · have hentry : IsEntry (trim field) :=
      ⟨hne, fun hcomma => h (Text.mem_of_mem_trim hcomma), htrimmed⟩
    rw [hfield]
    exact ⟨_, .entry hbefore hentry hafter⟩

/-! ## Lists of entries -/

/-- The entries that are found in a text: what its fields are trimmed to, as far as something is
left. -/
def pieces (text : List Char) : List (List Char) :=
  ((Text.separate (· == ',') text).map trim).filter (· ≠ [])

/-- The entries of a scope text are the ones that are found in its characters. -/
theorem entries_eq (text : String) : entries text = (pieces text.toList).map String.ofList :=
  rfl

/-- The pieces on the two sides of a comma are found apart. -/
theorem pieces_append_comma (before rest : List Char) :
    pieces (before ++ ',' :: rest) = pieces before ++ pieces rest := by
  have hcomma : (',' == ',') = true := rfl
  have hcut := Text.separate_append_separator (· == ',') before rest hcomma
  rw [pieces, hcut, List.map_append, List.filter_append]
  rfl

/-- In a field its entry is found. -/
theorem Field.pieces_eq {field : List Char} {entry : Option (List Char)} (h : Field field entry) :
    pieces field = entry.toList := by
  have hone : Text.separate (· == ',') field = [field] := by
    have hjoin := Text.separate_join ',' field [] (by simpa using h.comma_not_mem)
    rwa [Text.join_singleton] at hjoin
  rw [pieces, hone, List.map_singleton, h.trim_eq]
  cases h with
  | entry _ h _ => simp [h.ne_nil]
  | blank => rfl

/-- The entries that a text lists are found in it. -/
theorem Lists.pieces_eq {text : List Char} {entries : List (List Char)} (h : Lists text entries) :
    pieces text = entries := by
  induction h with
  | last h => exact h.pieces_eq
  | more h _ ih => rw [pieces_append_comma, h.pieces_eq, ih]

/-- A text lists the entries that are found in it. -/
theorem lists_pieces (text : List Char) : Lists text (pieces text) := by
  -- The induction is on the length, as what is left after the first comma is shorter.
  induction hlength : text.length using Nat.strong_induction_on generalizing text with
  | _ length ih =>
      by_cases hcomma : ',' ∈ text
      · obtain ⟨field, rest, rfl, hfield⟩ := List.eq_append_cons_of_mem hcomma
        obtain ⟨entry, hentry⟩ := exists_field hfield
        have hshorter : rest.length < length := by
          rw [← hlength, List.length_append, List.length_cons]
          omega
        rw [pieces_append_comma, hentry.pieces_eq]
        exact .more hentry (ih _ hshorter rest rfl)
      · obtain ⟨entry, hentry⟩ := exists_field hcomma
        rw [hentry.pieces_eq]
        exact .last hentry

/-- A text lists what is found in it and nothing else. -/
theorem lists_iff (text : List Char) (entries : List (List Char)) :
    Lists text entries ↔ pieces text = entries := by
  constructor
  · exact Lists.pieces_eq
  · rintro rfl
    exact lists_pieces text

/-- Every entry of a list is one. -/
theorem Lists.isEntry {text : List Char} {entries : List (List Char)} (h : Lists text entries) :
    ∀ entry ∈ entries, IsEntry entry := by
  have hfield : ∀ {field : List Char} {entry : Option (List Char)}, Field field entry →
      ∀ inside ∈ entry.toList, IsEntry inside := by
    intro field entry h inside hinside
    cases h with
    | entry _ h _ => exact List.mem_singleton.1 hinside ▸ h
    | blank => cases hinside
  induction h with
  | last h => exact hfield h
  | more h _ ih => exact List.forall_mem_append.2 ⟨hfield h, ih⟩

/-- What is around an entry does not make its field vacant. -/
theorem not_vacant_append {entry : List Char} (before after : List Char) (h : IsEntry entry) :
    ¬ Vacant (before ++ entry ++ after) := by
  intro hvacant
  obtain ⟨first, rest, rfl⟩ := List.exists_cons_of_ne_nil h.ne_nil
  rcases hvacant first (by simp) with rfl | hblank
  · exact h.comma_not_mem List.mem_cons_self
  · have hfirst := h.trimmed.first first rfl
    rw [hblank] at hfirst
    cases hfirst

/-- A field is vacant exactly if it has no entry. -/
theorem Field.vacant_iff {field : List Char} {entry : Option (List Char)} (h : Field field entry) :
    Vacant field ↔ entry.toList = [] := by
  cases h with
  | entry _ h _ => exact iff_of_false (not_vacant_append _ _ h) (List.cons_ne_nil _ _)
  | blank h => exact iff_of_true (fun character hmem => .inr (h character hmem)) rfl

/-- A text with a comma in it is vacant if both sides of the comma are. -/
theorem vacant_append_comma (before rest : List Char) :
    Vacant (before ++ ',' :: rest) ↔ Vacant before ∧ Vacant rest := by
  rw [Vacant, List.forall_mem_append, List.forall_mem_cons]
  exact and_congr Iff.rfl (and_iff_right (.inl rfl))

/-- A text that lists entries is vacant exactly if there are none. -/
theorem Lists.vacant_iff {text : List Char} {entries : List (List Char)} (h : Lists text entries) :
    Vacant text ↔ entries = [] := by
  induction h with
  | last h => exact h.vacant_iff
  | more h _ ih => rw [vacant_append_comma, h.vacant_iff, ih, List.append_eq_nil_iff]

/-- Entries with only commas between them are a text that lists them. -/
theorem lists_join (first : List Char) (entries : List (List Char))
    (h : ∀ entry ∈ first :: entries, IsEntry entry) :
    Lists (Text.join [','] (first :: entries)) (first :: entries) := by
  have hfield : ∀ entry : List Char, IsEntry entry → Field entry (some entry) := by
    intro entry hentry
    have hnone : Blank [] := by simp [Blank]
    have hbare : Field ([] ++ entry ++ []) (some entry) := .entry hnone hentry hnone
    rwa [List.nil_append, List.append_nil] at hbare
  induction entries generalizing first with
  | nil =>
      rw [Text.join_singleton]
      exact .last (hfield first (h first List.mem_cons_self))
  | cons second entries ih =>
      rw [Text.join_cons_cons]
      exact .more (hfield first (h first List.mem_cons_self))
        (ih second fun entry hentry => h entry (List.mem_cons_of_mem _ hentry))

/-! ## Scopes of a text -/

/-- The entries of a text are the ones that it lists. -/
theorem entries_eq_iff (text : String) (scopes : List String) :
    entries text = scopes ↔ Lists text.toList (scopes.map String.toList) := by
  rw [lists_iff, entries_eq]
  constructor
  · rintro rfl
    simp
  · intro h
    rw [h]
    simp

/-- A text has no entries exactly if it is vacant. -/
theorem entries_eq_nil_iff (text : String) : entries text = [] ↔ Vacant text.toList := by
  rw [(lists_pieces text.toList).vacant_iff, entries_eq, List.map_eq_nil_iff]

/-- The entries of two texts with a comma between them are those of the one and then those of the
other. -/
theorem entries_append_comma (before after : String) :
    entries (before ++ "," ++ after) = entries before ++ entries after := by
  have hcomma : (before ++ "," ++ after).toList = before.toList ++ ',' :: after.toList := by simp
  rw [entries_eq, hcomma, pieces_append_comma, List.map_append, ← entries_eq, ← entries_eq]

/-- Where there are no entries the scope that grants everything is read. -/
theorem parse_of_entries_eq_nil {text : String} (h : entries text = []) :
    parse (some text) = [everything] := by
  rw [parse, Option.map_some, h]
  rfl

/-- Where there are entries they are the scopes that are read. -/
theorem parse_of_entries_ne_nil {text : String} (h : entries text ≠ []) :
    parse (some text) = entries text := by
  obtain ⟨first, rest, hentries⟩ := List.exists_cons_of_ne_nil h
  rw [parse, Option.map_some, hentries]
  rfl

/-- The scopes that are read of a text are the ones that it lists, or the scope that grants
everything. -/
theorem parse_eq_iff (text : Option String) (scopes : List String) :
    parse text = scopes ↔ Reads text scopes := by
  constructor
  · rintro rfl
    cases text with
    | none => exact .absent
    | some text =>
        by_cases hentries : entries text = []
        · rw [parse_of_entries_eq_nil hentries]
          exact .vacant text ((entries_eq_nil_iff text).1 hentries)
        · rw [parse_of_entries_ne_nil hentries]
          exact .listed text _ hentries ((entries_eq_iff text _).1 rfl)
  · intro h
    cases h with
    | absent => rfl
    | vacant text h => exact parse_of_entries_eq_nil ((entries_eq_nil_iff text).2 h)
    | listed text scopes hne h =>
        have hentries := (entries_eq_iff text scopes).2 h
        rw [parse_of_entries_ne_nil (hentries ▸ hne), hentries]

/-- Every scope that is read is an entry. -/
theorem isEntry_of_mem_parse {text : Option String} {scope : String} (h : scope ∈ parse text) :
    IsEntry scope.toList := by
  rcases mem_entries_of_mem_parse h with rfl | ⟨entered, hentered⟩
  · refine ⟨by decide, by decide, ?_, ?_⟩
    · rintro first ⟨⟩
      rfl
    · rintro last ⟨⟩
      rfl
  · rw [entries_eq] at hentered
    obtain ⟨entry, hmem, rfl⟩ := List.mem_map.1 hentered
    rw [String.toList_ofList]
    exact (lists_pieces _).isEntry entry hmem

/-- The scopes that are read, with commas between them, are a text that lists them. -/
theorem lists_intercalate_parse (text : Option String) :
    Lists (",".intercalate (parse text)).toList ((parse text).map String.toList) := by
  obtain ⟨first, rest, hparse⟩ := List.exists_cons_of_ne_nil (parse_ne_nil text)
  rw [String.toList_intercalate, hparse]
  refine lists_join first.toList (rest.map String.toList) fun entry hentry => ?_
  obtain ⟨scope, hscope, rfl⟩ := List.mem_map.1 (List.map_cons ▸ hentry)
  exact isEntry_of_mem_parse (hparse ▸ hscope)

/-- Which scopes are read of a connection's text is what it lists. There is at least one, and each
is an entry. A text has no entries exactly if it is vacant. Of two texts with a comma between them,
not both vacant, the entries of the one and then those of the other are read. The scopes themselves
with commas between them are a text that lists them, and they are read again of every text that
lists them, whatever blanks and empty fields it has. -/
theorem parse_reads :
    (∀ text scopes, parse text = scopes ↔ Reads text scopes) ∧
      (∀ text, parse text ≠ [] ∧ ∀ scope ∈ parse text, IsEntry scope.toList) ∧
      (∀ text scopes, entries text = scopes ↔ Lists text.toList (scopes.map String.toList)) ∧
      (∀ text, entries text = [] ↔ Vacant text.toList) ∧
      (∀ before after, ¬ (Vacant before.toList ∧ Vacant after.toList) →
        parse (some (before ++ "," ++ after)) = entries before ++ entries after) ∧
      (∀ text, Lists (",".intercalate (parse text)).toList ((parse text).map String.toList)) ∧
      ∀ (text : Option String) (padded : String),
        Lists padded.toList ((parse text).map String.toList) →
          parse (some padded) = parse text := by
  refine ⟨parse_eq_iff, fun text => ⟨parse_ne_nil text, fun scope => isEntry_of_mem_parse⟩,
    entries_eq_iff, entries_eq_nil_iff, ?_, lists_intercalate_parse, ?_⟩
  · intro before after h
    rw [← entries_append_comma]
    refine parse_of_entries_ne_nil fun hnone => h ?_
    rw [entries_append_comma, List.append_eq_nil_iff] at hnone
    exact ⟨(entries_eq_nil_iff before).1 hnone.1, (entries_eq_nil_iff after).1 hnone.2⟩
  · intro text padded h
    exact (parse_eq_iff _ _).2 (.listed padded _ (parse_ne_nil text) h)

/-- A scope that is written twice is read twice. An empty field and an ideographic blank beside the
entries make no difference, before the comma that stands between two texts, after it, and when the
scopes are written out again. -/
theorem parse_reads_of_repeated :
    parse (some "a ,,b,a") = ["a", "b", "a"] ∧
      ¬ (Vacant "a ,".toList ∧ Vacant "b,a".toList) ∧
      entries "a ," ++ entries "b,a" = ["a", "b", "a"] ∧
      Lists "a,\u3000b\t, ,a".toList ((parse (some "a ,,b,a")).map String.toList) ∧
      parse (some "a,\u3000b\t, ,a") = ["a", "b", "a"] := by
  have hparse : parse (some "a ,,b,a") = ["a", "b", "a"] := by decide
  have hvacant : ¬ (Vacant "a ,".toList ∧ Vacant "b,a".toList) := by decide
  have hlists : Lists "a,\u3000b\t, ,a".toList ((parse (some "a ,,b,a")).map String.toList) := by
    rw [lists_iff]
    decide
  refine ⟨hparse, hvacant, ?_, hlists, ?_⟩
  · exact (parse_reads.2.2.2.2.1 "a ," "b,a" hvacant).symm.trans hparse
  · exact (parse_reads.2.2.2.2.2.2 (some "a ,,b,a") _ hlists).trans hparse

end CloudCredentials.Scope
