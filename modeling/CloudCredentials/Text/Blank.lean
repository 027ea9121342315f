/-!
# Blanks

The characters with the Unicode property White_Space, and the removal of them from the ends of a
text.
-/

namespace CloudCredentials.Text

/-- The character has the Unicode property White_Space. -/
def isBlank (character : Char) : Bool :=
  let code := character.toNat
  (9 ≤ code && code ≤ 13) || code == 32 || code == 133 || code == 160 || code == 5760 ||
    (8192 ≤ code && code ≤ 8202) || code == 8232 || code == 8233 || code == 8239 ||
    code == 8287 || code == 12288

/-- `trimEnd text` is the text without the blanks at its end. -/
def trimEnd (text : List Char) : List Char :=
  (text.reverse.dropWhile isBlank).reverse

/-- `trim text` is the text without the blanks at either end. -/
def trim (text : List Char) : List Char :=
  trimEnd (text.dropWhile isBlank)

/-- Trimming adds nothing to a text. -/
theorem mem_of_mem_trim {text : List Char} {character : Char} (h : character ∈ trim text) :
    character ∈ text := by
  rw [trim, trimEnd, List.mem_reverse] at h
  have hstart := (List.dropWhile_sublist isBlank).subset h
  exact (List.dropWhile_sublist isBlank).subset (List.mem_reverse.1 hstart)

end CloudCredentials.Text
