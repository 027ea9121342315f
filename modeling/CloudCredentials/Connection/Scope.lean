import CloudCredentials.Text.Blank
import CloudCredentials.Text.Separated

/-!
# Scopes

A connection lists its scopes in one text, with commas between them. Blanks around an entry and
empty entries do not count, and where nothing is left the default scope stands in.
`comma_not_mem_of_mem_parse` says that no scope holds a comma.
-/

namespace CloudCredentials.Scope

/-- The scope that grants access to every service of the platform. -/
def everything : String := "https://www.googleapis.com/auth/cloud-platform"

/-- The entries of a scope text: the pieces between the commas without the blanks around them, as
far as something is left. -/
def entries (text : String) : List String :=
  (((Text.separate (· == ',') text.toList).map Text.trim).filter (· ≠ [])).map String.ofList

/-- The scopes that a connection asks for. -/
def parse (text : Option String) : List String :=
  match (text.map entries).getD [] with
  | [] => [everything]
  | scope :: scopes => scope :: scopes

/-- No entry holds a comma. -/
theorem comma_not_mem_of_mem_entries {text scope : String} (h : scope ∈ entries text) :
    ',' ∉ scope.toList := by
  obtain ⟨characters, hmem, rfl⟩ := List.mem_map.1 h
  obtain ⟨piece, hpiece, rfl⟩ := List.mem_map.1 (List.mem_filter.1 hmem).1
  rw [String.toList_ofList]
  intro hcomma
  have hfree := Text.not_isSeparator_of_mem_separate _ hpiece (Text.mem_of_mem_trim hcomma)
  cases hfree

/-- The scopes are the entries of a text, or the scope that grants everything. -/
theorem mem_entries_of_mem_parse {text : Option String} {scope : String} (h : scope ∈ parse text) :
    scope = everything ∨ ∃ entered, scope ∈ entries entered := by
  rw [parse] at h
  split at h
  · exact .inl (List.mem_singleton.1 h)
  · next first scopes heq =>
      cases text with
      | none => simp at heq
      | some text =>
          rw [← heq] at h
          exact .inr ⟨text, by simpa using h⟩

/-- There is at least one scope. -/
theorem parse_ne_nil (text : Option String) : parse text ≠ [] := by
  rw [parse]
  split <;> exact List.cons_ne_nil _ _

/-- No scope holds a comma. -/
theorem comma_not_mem_of_mem_parse {text : Option String} {scope : String}
    (h : scope ∈ parse text) : ',' ∉ scope.toList := by
  rcases mem_entries_of_mem_parse h with rfl | ⟨entered, hentered⟩
  · decide
  · exact comma_not_mem_of_mem_entries hentered

end CloudCredentials.Scope
