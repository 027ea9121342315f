import CloudCredentials.Text.Blank
import Mathlib.Data.List.DropRight

/-!
# The ends of a text

What is dropped from the end of a list may be there or not, `rdropWhile_append`. A trimmed text is
what is left of a text once the blanks at both ends are taken away, and `trim_eq_iff` says that this
tells which text it is.
-/

namespace CloudCredentials.Text

variable {α : Type}

/-- What is to be dropped from the end of a list makes no difference there. -/
theorem rdropWhile_append {isDropped : α → Bool} (items : List α) {ending : List α}
    (h : ∀ item ∈ ending, isDropped item = true) :
    (items ++ ending).rdropWhile isDropped = items.rdropWhile isDropped := by
  rw [List.rdropWhile, List.reverse_append,
    List.dropWhile_append_of_pos fun item hitem => h item (List.mem_reverse.1 hitem)]
  rfl

/-- A list keeps its last item if that is not one to be dropped. -/
theorem rdropWhile_eq_self {isDropped : α → Bool} {items : List α}
    (h : ∀ item ∈ items.getLast?, isDropped item = false) :
    items.rdropWhile isDropped = items := by
  rw [List.rdropWhile_eq_self_iff]
  intro hne
  rw [Bool.not_eq_true]
  exact h _ (List.getLast?_eq_some_getLast hne)

/-- No item to be dropped is left at the end. -/
theorem getLast?_rdropWhile {isDropped : α → Bool} {items : List α} :
    ∀ item ∈ (items.rdropWhile isDropped).getLast?, isDropped item = false := by
  intro item hitem
  by_cases hne : items.rdropWhile isDropped = []
  · rw [hne] at hitem
    cases hitem
  · rw [List.getLast?_eq_some_getLast hne] at hitem
    cases hitem
    exact Bool.not_eq_true _ ▸ List.rdropWhile_last_not isDropped items hne

/-- There is nothing but blanks in the text. -/
def Blank (text : List Char) : Prop :=
  ∀ character ∈ text, isBlank character = true

/-- The text neither starts nor ends with a blank. -/
structure Trimmed (text : List Char) : Prop where
  first : ∀ character ∈ text.head?, isBlank character = false
  last : ∀ character ∈ text.getLast?, isBlank character = false

/-- Trimming leaves a blank neither at the start nor at the end. -/
theorem trimmed_trim (text : List Char) : Trimmed (trim text) := by
  constructor
  case first =>
    intro character hfirst
    obtain ⟨rest, hrest⟩ := List.head?_eq_some_iff.1 hfirst
    obtain ⟨ending, hending⟩ := List.rdropWhile_prefix isBlank (l := text.dropWhile isBlank)
    -- What is left once both ends are trimmed starts as what is left once the start is.
    have hstart : (text.dropWhile isBlank).head? = some character := by
      rw [← hending, show (text.dropWhile isBlank).rdropWhile isBlank = trim text from rfl, hrest]
      rfl
    have hnot := List.head?_dropWhile_not isBlank text
    rwa [hstart] at hnot
  case last => exact getLast?_rdropWhile

/-- The blanks at both ends may be there or not. -/
theorem trim_append {before text after : List Char} (hbefore : Blank before) (h : Trimmed text)
    (hafter : Blank after) : trim (before ++ text ++ after) = text := by
  have hends : trim (before ++ text ++ after) =
      ((text ++ after).dropWhile isBlank).rdropWhile isBlank := by
    rw [List.append_assoc, trim, List.dropWhile_append_of_pos hbefore]
    rfl
  rw [hends]
  cases text with
  | nil =>
      have hnone : after.dropWhile isBlank = [] := List.dropWhile_eq_nil_iff.2 hafter
      rw [List.nil_append, hnone, List.rdropWhile_nil]
  | cons first rest =>
      have hfirst : isBlank first = false := h.first first rfl
      rw [List.cons_append, List.dropWhile_cons_of_neg (by simp [hfirst]), ← List.cons_append,
        rdropWhile_append _ hafter, rdropWhile_eq_self h.last]

/-- A text is trimmed to what has only blanks around it there. -/
theorem trim_eq_iff (text trimmed : List Char) :
    trim text = trimmed ↔ ∃ before after, text = before ++ trimmed ++ after ∧
      Blank before ∧ Trimmed trimmed ∧ Blank after := by
  constructor
  · rintro rfl
    refine ⟨text.takeWhile isBlank, (text.dropWhile isBlank).rtakeWhile isBlank, ?_,
      fun character h => List.mem_takeWhile_imp h, trimmed_trim text,
      fun character h => List.mem_rtakeWhile_imp h⟩
    calc text
        = text.takeWhile isBlank ++ text.dropWhile isBlank := List.takeWhile_append_dropWhile.symm
      _ = text.takeWhile isBlank ++ (trim text ++
            (text.dropWhile isBlank).rtakeWhile isBlank) :=
          congrArg _ (List.rdropWhile_append_rtakeWhile (p := isBlank)).symm
      _ = _ := (List.append_assoc _ _ _).symm
  · rintro ⟨before, after, rfl, hbefore, htrimmed, hafter⟩
    exact trim_append hbefore htrimmed hafter

/-- A text is trimmed to nothing exactly if it is blank. -/
theorem trim_eq_nil_iff (text : List Char) : trim text = [] ↔ Blank text := by
  rw [trim_eq_iff]
  constructor
  · rintro ⟨before, after, rfl, hbefore, -, hafter⟩
    intro character h
    rw [List.append_nil, List.mem_append] at h
    exact h.elim (hbefore character) (hafter character)
  · intro h
    exact ⟨text, [], by simp, h, ⟨by simp, by simp⟩, by simp [Blank]⟩

end CloudCredentials.Text
