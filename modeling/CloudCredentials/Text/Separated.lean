/-!
# Separated texts

Cutting a list at every occurrence of a separator, joining pieces with one between them, and
taking a given start off a list or finding a given part of it. `separate_join` says that pieces
without the separator are recovered from their joined form.
-/

namespace CloudCredentials.Text

variable {α : Type}

/-- `separate isSeparator items` is the pieces between the separators, in order. There is always
one piece more than there are separators. -/
def separate (isSeparator : α → Bool) : List α → List (List α)
  | [] => [[]]
  | item :: rest =>
      if isSeparator item then [] :: separate isSeparator rest
      else
        match separate isSeparator rest with
        | piece :: pieces => (item :: piece) :: pieces
        | [] => [[item]]

/-- `join separator pieces` is the pieces with `separator` between each and the next. -/
def join (separator : List α) (pieces : List (List α)) : List α :=
  (pieces.intersperse separator).flatten

/-- `after? start items` is the rest of a list that begins with `start`. -/
def after? [BEq α] : (start items : List α) → Option (List α)
  | [], items => some items
  | _ :: _, [] => none
  | expected :: start, item :: items => if item == expected then after? start items else none

/-- `breakAt? mark items` is what stands before the first occurrence of `mark`, and what stands
after it. -/
def breakAt? [BEq α] (mark : List α) : List α → Option (List α × List α)
  | [] => if mark.isEmpty then some ([], []) else none
  | item :: rest =>
      match after? mark (item :: rest) with
      | some tail => some ([], tail)
      | none => (breakAt? mark rest).map fun (before, tail) => (item :: before, tail)

/-- The text ends with `ending`. -/
def endsWith (text ending : String) : Bool :=
  (after? ending.toList.reverse text.toList.reverse).isSome

/-- A list begins with `start` if it is `start` and a rest. -/
theorem after?_eq_some_iff [BEq α] [LawfulBEq α] (start items rest : List α) :
    after? start items = some rest ↔ items = start ++ rest := by
  induction start generalizing items with
  | nil => simp [after?, eq_comm]
  | cons expected start ih =>
      cases items with
      | nil => simp [after?]
      | cons item items =>
          rw [after?]
          by_cases h : item = expected
          · simp [h, ih]
          · simp [h]

/-- A text ends with `ending` if it is a text and `ending` after it. -/
theorem endsWith_iff (text ending : String) :
    endsWith text ending = true ↔ ∃ stem, text = stem ++ ending := by
  rw [endsWith, Option.isSome_iff_exists]
  constructor
  · rintro ⟨rest, hrest⟩
    refine ⟨String.ofList rest.reverse, String.toList_injective ?_⟩
    rw [after?_eq_some_iff] at hrest
    simpa using congrArg List.reverse hrest
  · rintro ⟨stem, rfl⟩
    exact ⟨stem.toList.reverse, (after?_eq_some_iff _ _ _).2 (by simp)⟩

/-- A list is broken at a mark that stands nowhere before. -/
theorem breakAt?_append [BEq α] [LawfulBEq α] {mark : α} {before : List α} (h : mark ∉ before)
    (rest : List α) : breakAt? [mark] (before ++ mark :: rest) = some (before, rest) := by
  induction before with
  | nil => simp [breakAt?, after?]
  | cons item before ih =>
      have hitem : item ≠ mark := fun heq => h (heq ▸ List.mem_cons_self)
      have hbefore := ih fun hmem => h (List.mem_cons_of_mem _ hmem)
      simp [breakAt?, after?, hitem, hbefore]

/-- A list without the mark is not broken. -/
theorem breakAt?_of_not_mem [BEq α] [LawfulBEq α] {mark : α} {items : List α} (h : mark ∉ items) :
    breakAt? [mark] items = none := by
  induction items with
  | nil => rfl
  | cons item items ih =>
      have hitem : item ≠ mark := fun heq => h (heq ▸ List.mem_cons_self)
      have hitems := ih fun hmem => h (List.mem_cons_of_mem _ hmem)
      simp [breakAt?, after?, hitem, hitems]

/-- There is at least one piece. -/
theorem separate_ne_nil (isSeparator : α → Bool) (items : List α) :
    separate isSeparator items ≠ [] := by
  cases items with
  | nil => simp [separate]
  | cons item rest =>
      rw [separate]
      split
      · simp
      · split <;> simp

/-- Items that are no separators belong to the first piece. -/
theorem separate_append (isSeparator : α → Bool) (items rest : List α)
    (h : ∀ item ∈ items, isSeparator item = false) (piece : List α) (pieces : List (List α))
    (hrest : separate isSeparator rest = piece :: pieces) :
    separate isSeparator (items ++ rest) = (items ++ piece) :: pieces := by
  induction items with
  | nil => simpa using hrest
  | cons item items ih =>
      have htail := ih (fun other hother => h other (List.mem_cons_of_mem _ hother))
      simp [separate, h item (List.mem_cons_self ..), htail]

/-- Cutting at a separator and cutting on both sides of it gives the same pieces. -/
theorem separate_append_separator (isSeparator : α → Bool) (before rest : List α) {separator : α}
    (h : isSeparator separator = true) :
    separate isSeparator (before ++ separator :: rest) =
      separate isSeparator before ++ separate isSeparator rest := by
  induction before with
  | nil => simp [separate, h]
  | cons item before ih =>
      by_cases hitem : isSeparator item = true
      · simp [separate, hitem, ih]
      · cases hpieces : separate isSeparator before with
        | nil => exact absurd hpieces (separate_ne_nil isSeparator before)
        | cons piece pieces => simp [separate, hitem, ih, hpieces]

/-- No piece holds a separator. -/
theorem not_isSeparator_of_mem_separate (isSeparator : α → Bool) {items piece : List α}
    (h : piece ∈ separate isSeparator items) {item : α} (hitem : item ∈ piece) :
    isSeparator item = false := by
  induction items generalizing piece with
  | nil =>
      rw [separate, List.mem_singleton] at h
      subst h
      cases hitem
  | cons first rest ih =>
      rw [separate] at h
      split at h
      · rcases List.mem_cons.1 h with rfl | hrest
        · cases hitem
        · exact ih hrest hitem
      · next hfirst =>
          split at h
          · next head pieces hpieces =>
              rcases List.mem_cons.1 h with rfl | hrest
              · rcases List.mem_cons.1 hitem with rfl | hhead
                · exact Bool.eq_false_iff.2 hfirst
                · exact ih (hpieces ▸ List.mem_cons_self) hhead
              · exact ih (hpieces ▸ List.mem_cons_of_mem _ hrest) hitem
          · next hnil => exact absurd hnil (separate_ne_nil isSeparator rest)

/-- A single piece is joined to nothing. -/
theorem join_singleton (separator piece : List α) : join separator [piece] = piece := by
  simp [join]

/-- A piece is joined to the ones after it by a separator. -/
theorem join_cons_cons (separator first second : List α) (pieces : List (List α)) :
    join separator (first :: second :: pieces) =
      first ++ (separator ++ join separator (second :: pieces)) := by
  simp [join]

/-- The first item of the first piece comes first. -/
theorem join_cons (separator : List α) (item : α) (piece : List α) (pieces : List (List α)) :
    join separator ((item :: piece) :: pieces) = item :: join separator (piece :: pieces) := by
  cases pieces with
  | nil => simp only [join_singleton]
  | cons second pieces => simp only [join_cons_cons, List.cons_append]

/-- What is joined stands in one of the pieces or in the separator. -/
theorem mem_join {separator : List α} {pieces : List (List α)} {item : α}
    (h : item ∈ join separator pieces) : item ∈ separator ∨ ∃ piece ∈ pieces, item ∈ piece := by
  induction pieces with
  | nil => cases h
  | cons first pieces ih =>
      cases pieces with
      | nil => exact .inr ⟨first, List.mem_cons_self, join_singleton separator first ▸ h⟩
      | cons second pieces =>
          rw [join_cons_cons, List.mem_append, List.mem_append] at h
          rcases h with hfirst | hseparator | hrest
          · exact .inr ⟨first, List.mem_cons_self, hfirst⟩
          · exact .inl hseparator
          · obtain hseparator | ⟨piece, hpiece, hitem⟩ := ih hrest
            · exact .inl hseparator
            · exact .inr ⟨piece, List.mem_cons_of_mem _ hpiece, hitem⟩

/-- Pieces that hold no separator are recovered from their joined form. -/
theorem separate_join [BEq α] [LawfulBEq α] (separator : α) (first : List α)
    (pieces : List (List α)) (h : ∀ piece ∈ first :: pieces, separator ∉ piece) :
    separate (· == separator) (join [separator] (first :: pieces)) = first :: pieces := by
  have hfree : ∀ piece ∈ first :: pieces, ∀ item ∈ piece, (item == separator) = false := by
    intro piece hpiece item hitem
    have hne : item ≠ separator := fun heq => h piece hpiece (heq ▸ hitem)
    simpa using hne
  induction pieces generalizing first with
  | nil =>
      have hone := separate_append (· == separator) first [] (hfree first (by simp)) [] [] rfl
      simpa [join] using hone
  | cons second pieces ih =>
      have htail := ih second (fun piece hpiece => h piece (List.mem_cons_of_mem _ hpiece))
        (fun piece hpiece => hfree piece (List.mem_cons_of_mem _ hpiece))
      have hcut : separate (· == separator)
          (separator :: join [separator] (second :: pieces)) = [] :: second :: pieces := by
        simp [separate, htail]
      have hall := separate_append (· == separator) first _ (hfree first (by simp)) _ _ hcut
      simpa [join] using hall

end CloudCredentials.Text
