import CloudCredentials.Connection.Document
import CloudCredentials.Proofs.Credentials.Decision
import CloudCredentials.Proofs.Json.Values

/-!
# Settings in extra fields

Each setting has two names in the extra fields of a connection. `FirstText` says which text is found
under them: the one under its form name, unless there is none or an empty one, and else the one
under its bare name. `settings_of_extras` says that a connection shows this of the extra fields that
describe it, that nothing else in them matters, and by which names its settings are looked up.
-/

namespace CloudCredentials

namespace Setting

/-! ## Names of settings -/

/-- A setting has a bare name of its own. -/
theorem find?_name_eq_some_iff (bare : String) (setting : Setting) :
    all.find? (·.name == bare) = some setting ↔ setting.name = bare := by
  constructor
  · intro h
    simpa using List.find?_some h
  · rintro rfl
    cases setting <;> rfl

/-- The bare name of a setting does not begin with the mark of a form. -/
theorem after?_name (setting : Setting) :
    Text.after? formMark.toList setting.name.toList = none := by
  cases setting <;> decide

/-- What follows the mark of a form is the rest of a name. -/
theorem after?_formMark (rest : String) :
    Text.after? formMark.toList (formMark ++ rest).toList = some rest.toList := by
  rw [Text.after?_eq_some_iff, String.toList_append]

/-- A name with the mark of a form is not the bare name of a setting. -/
theorem formMark_append_ne_name (rest : String) (setting : Setting) :
    formMark ++ rest ≠ setting.name := by
  intro h
  have hafter := after?_formMark rest
  rw [h, after?_name] at hafter
  cases hafter

/-- The names that a setting goes by. -/
def names : Setting → List String
  | .keyPath => ["key_path", "extra__google_cloud_platform__key_path"]
  | .keyData => ["keyfile_dict", "extra__google_cloud_platform__keyfile_dict"]
  | .scope => ["scope", "extra__google_cloud_platform__scope"]
  | .project => ["project", "extra__google_cloud_platform__project"]

/-- A setting goes by a name. -/
def GoesBy (setting : Setting) (name : String) : Prop :=
  name ∈ setting.names

/-- A setting goes by its bare name and by its form name. -/
theorem goesBy_iff (setting : Setting) (name : String) :
    setting.GoesBy name ↔ name = setting.name ∨ name = setting.formName := by
  have hnames : setting.names = [setting.name, setting.formName] := by cases setting <;> rfl
  rw [GoesBy, hnames, List.mem_pair]

/-- A name stands for the setting that goes by it. -/
theorem ofName?_eq_some_iff (name : String) (setting : Setting) :
    ofName? name = some setting ↔ setting.GoesBy name := by
  rw [ofName?, goesBy_iff]
  cases hafter : Text.after? formMark.toList name.toList with
  | none =>
      have hform : name ≠ setting.formName := by
        rintro rfl
        rw [formName, after?_formMark] at hafter
        cases hafter
      rw [find?_name_eq_some_iff, or_iff_left hform, eq_comm]
  | some rest =>
      have hname : name = formMark ++ String.ofList rest := by
        rw [Text.after?_eq_some_iff] at hafter
        rw [← String.toList_inj, String.toList_append, String.toList_ofList, hafter]
      subst hname
      rw [find?_name_eq_some_iff, or_iff_right (formMark_append_ne_name _ _), formName,
        String.append_right_inj, eq_comm]

/-- No two settings go by one name. -/
theorem GoesBy.unique {name : String} {setting other : Setting} (h : setting.GoesBy name)
    (hother : other.GoesBy name) : setting = other := by
  rw [← ofName?_eq_some_iff] at h hother
  exact Option.some.inj (h.symm.trans hother)

/-- No setting goes by a name with the mark of a form twice. -/
theorem not_goesBy_marked (setting other : Setting) :
    ¬ other.GoesBy (formMark ++ setting.formName) := by
  rw [goesBy_iff]
  rintro (h | h)
  · exact formMark_append_ne_name _ _ h
  · rw [formName, formName, String.append_right_inj] at h
    exact formMark_append_ne_name _ _ h

end Setting

/-- A text that is empty counts as none also where it is the second one. -/
theorem nonEmpty_or (first second : Option String) :
    nonEmpty ((nonEmpty first).or second) = (nonEmpty first).or (nonEmpty second) := by
  cases hfirst : nonEmpty first with
  | none => simp only [Option.none_or]
  | some word =>
      rw [Option.some_or, Option.some_or, nonEmpty_eq_some_iff]
      exact ⟨rfl, ((nonEmpty_eq_some_iff _ _).1 hfirst).2⟩

namespace Connection

open Json (Value Members member?)

/-! ## Texts of settings -/

/-- `CountsAs value text` says that a stored value counts as a text: a string as itself, and every
other value but null as its compact text. -/
inductive CountsAs : Value → String → Prop where
  | string (text : String) : CountsAs (.string text) text
  | written (value : Value) (hnull : value ≠ .null) (hstring : ∀ text, value ≠ .string text) :
      CountsAs value value.text

/-- The text of a stored value is the one that it counts as. -/
theorem storedText_eq_some_iff (value : Value) (text : String) :
    storedText value = some text ↔ CountsAs value text := by
  constructor
  · intro h
    cases value with
    | null => cases h
    | string word =>
        cases h
        exact .string _
    | boolean | number | array | object =>
        cases h
        exact .written _ (by simp) (by simp)
  · intro h
    cases h with
    | string => rfl
    | written _ hnull hstring =>
        cases value with
        | null => exact absurd rfl hnull
        | string => exact absurd rfl (hstring _)
        | boolean | number | array | object => rfl

/-- `GivesText extras name text` says that extra fields have a value under a name that counts as a
text, and that the text is not empty. -/
def GivesText (extras : Members) (name text : String) : Prop :=
  ∃ value, member? name extras = some value ∧ CountsAs value text ∧ text ≠ ""

/-- `FirstText extras setting found` says which text is found for a setting in extra fields, if
any. -/
inductive FirstText (extras : Members) (setting : Setting) : Option String → Prop where
  | form (text : String) (h : GivesText extras setting.formName text) :
      FirstText extras setting (some text)
  | bare (text : String) (hform : ∀ text, ¬ GivesText extras setting.formName text)
      (h : GivesText extras setting.name text) : FirstText extras setting (some text)
  | none (hform : ∀ text, ¬ GivesText extras setting.formName text)
      (hbare : ∀ text, ¬ GivesText extras setting.name text) : FirstText extras setting none

/-- The extra fields have the same values under the names of a setting. -/
def AgreeOn (setting : Setting) (left right : Members) : Prop :=
  ∀ name, setting.GoesBy name → member? name left = member? name right

/-- The extra fields have the same values under all names but those of a setting. -/
def AgreeBesides (setting : Setting) (left right : Members) : Prop :=
  ∀ name, ¬ setting.GoesBy name → member? name left = member? name right

/-- Extra fields that agree on all names but those of a setting agree on every other setting. -/
theorem AgreeBesides.agreeOn {setting other : Setting} {left right : Members}
    (h : AgreeBesides setting left right) (hne : other ≠ setting) : AgreeOn other left right :=
  fun name hname => h name fun hsetting => hne (hname.unique hsetting)

variable {extras : Members}

/-- The text under a name, unless it is empty. -/
def textUnder (extras : Members) (name : String) : Option String :=
  nonEmpty ((member? name extras).bind storedText)

/-- The text under a name is the one that is given there. -/
theorem textUnder_eq_some_iff (name text : String) :
    textUnder extras name = some text ↔ GivesText extras name text := by
  simp only [textUnder, nonEmpty_eq_some_iff, Option.bind_eq_some_iff, storedText_eq_some_iff,
    GivesText, and_assoc, ← exists_and_right]

/-- There is no text under a name if none is given there. -/
theorem textUnder_eq_none_iff (name : String) :
    textUnder extras name = none ↔ ∀ text, ¬ GivesText extras name text := by
  simp only [Option.eq_none_iff_forall_ne_some, ne_eq, textUnder_eq_some_iff]

/-- A connection stores the texts of the extra fields that describe it. -/
theorem stored_ofExtras (extras : Members) (setting : Setting) :
    (ofExtras extras).stored setting = extraText extras setting := by
  cases setting <;> rfl

/-- A setting is read from the extra fields that describe a connection under its form name first and
under its bare name second. -/
theorem get_ofExtras (extras : Members) (setting : Setting) :
    (ofExtras extras).get setting =
      (textUnder extras setting.formName).or (textUnder extras setting.name) := by
  rw [get, stored_ofExtras, extraText, nonEmpty_or]
  rfl

/-- A setting is read as the first text that is found for it. -/
theorem get_ofExtras_eq_iff (setting : Setting) (found : Option String) :
    (ofExtras extras).get setting = found ↔ FirstText extras setting found := by
  rw [get_ofExtras]
  constructor
  · rintro rfl
    cases hform : textUnder extras setting.formName with
    | some text => exact .form text ((textUnder_eq_some_iff _ _).1 hform)
    | none =>
        rw [textUnder_eq_none_iff] at hform
        cases hbare : textUnder extras setting.name with
        | some text => exact .bare text hform ((textUnder_eq_some_iff _ _).1 hbare)
        | none => exact .none hform ((textUnder_eq_none_iff _).1 hbare)
  · intro h
    cases h with
    | form text h => rw [(textUnder_eq_some_iff _ _).2 h, Option.some_or]
    | bare text hform h =>
        rw [(textUnder_eq_none_iff _).2 hform, Option.none_or, (textUnder_eq_some_iff _ _).2 h]
    | none hform hbare =>
        rw [(textUnder_eq_none_iff _).2 hform, Option.none_or, (textUnder_eq_none_iff _).2 hbare]

/-- Extra fields that agree on a setting store the same text for it. -/
theorem AgreeOn.stored_eq {setting : Setting} {left right : Members}
    (h : AgreeOn setting left right) :
    (ofExtras left).stored setting = (ofExtras right).stored setting := by
  have hbare := h setting.name ((setting.goesBy_iff _).2 (.inl rfl))
  have hform := h setting.formName ((setting.goesBy_iff _).2 (.inr rfl))
  rw [stored_ofExtras, stored_ofExtras, extraText, extraText, hbare, hform]

/-- Connections that store the same texts are the same. -/
theorem eq_of_stored_eq {left right : Connection}
    (h : ∀ setting, left.stored setting = right.stored setting) : left = right := by
  obtain ⟨keyPath, keyData, scope, project⟩ := left
  obtain ⟨keyPathOther, keyDataOther, scopeOther, projectOther⟩ := right
  have hkeyPath : keyPath = keyPathOther := h .keyPath
  have hkeyData : keyData = keyDataOther := h .keyData
  have hscope : scope = scopeOther := h .scope
  have hproject : project = projectOther := h .project
  rw [hkeyPath, hkeyData, hscope, hproject]

/-- `ShowsExtras extras connection` says what a connection shows of extra fields. -/
structure ShowsExtras (extras : Members) (connection : Connection) : Prop where
  /-- A setting is the first text that is found for it. -/
  first : ∀ setting found, connection.get setting = found ↔ FirstText extras setting found
  /-- A value under a form name that is neither null nor a string goes before everything else. -/
  written : ∀ setting value, member? setting.formName extras = some value → value ≠ .null →
    (∀ text, value ≠ .string text) → connection.get setting = some value.text
  /-- Null and an empty text under a form name give way to the text under the bare name. -/
  blank : ∀ setting value text, member? setting.formName extras = some value →
    value = .null ∨ value = .string "" → GivesText extras setting.name text →
    connection.get setting = some text
  /-- Other extra fields with the same values under the names of all settings describe the same
  connection. -/
  same : ∀ other, (∀ setting, AgreeOn setting extras other) → ofExtras other = connection
  /-- Other extra fields with other values under the names of one setting describe a connection with
  the same other settings. -/
  besides : ∀ other setting, AgreeBesides setting extras other → ∀ kept, kept ≠ setting →
    (ofExtras other).stored kept = connection.stored kept

/-- `ReadByName connection` says which setting of a connection is read by which name. -/
structure ReadByName (connection : Connection) : Prop where
  /-- Both names of a setting stand for it. -/
  named : ∀ setting name, setting.GoesBy name → connection.field name = connection.get setting
  /-- Every other name stands for nothing. -/
  unnamed : ∀ name, (∀ setting, ¬ Setting.GoesBy setting name) → connection.field name = none
  /-- So does a form name with another mark in front of it. -/
  marked : ∀ setting, connection.field (Setting.formMark ++ Setting.formName setting) = none

/-- A value that is neither null nor a string is given as its compact text. -/
theorem givesText_text {name : String} {value : Value} (h : member? name extras = some value)
    (hnull : value ≠ .null) (hstring : ∀ text, value ≠ .string text) :
    GivesText extras name value.text :=
  ⟨value, h, .written value hnull hstring, value.text_ne_empty⟩

/-- Null and an empty text give no text. -/
theorem not_givesText_of_blank {name text : String} {value : Value}
    (h : member? name extras = some value) (hblank : value = .null ∨ value = .string "") :
    ¬ GivesText extras name text := by
  rintro ⟨found, hfound, hcounts, hne⟩
  cases h.symm.trans hfound
  rcases hblank with rfl | rfl
  · cases hcounts with
    | written _ hnull _ => exact hnull rfl
  · cases hcounts with
    | string => exact hne rfl
    | written _ _ hstring => exact hstring _ rfl

/-- The connection that extra fields describe shows them. -/
theorem showsExtras_ofExtras (extras : Members) : ShowsExtras extras (ofExtras extras) where
  first := get_ofExtras_eq_iff
  written _ _ h hnull hstring :=
    (get_ofExtras_eq_iff _ _).2 (.form _ (givesText_text h hnull hstring))
  blank _ _ _ h hblank htext :=
    (get_ofExtras_eq_iff _ _).2 (.bare _ (fun _ => not_givesText_of_blank h hblank) htext)
  same _ h := eq_of_stored_eq fun setting => (h setting).stored_eq.symm
  besides _ _ h _ hne := (h.agreeOn hne).stored_eq.symm

/-- Settings are read by their names. -/
theorem readByName (connection : Connection) : connection.ReadByName := by
  have hunnamed : ∀ name, (∀ setting, ¬ Setting.GoesBy setting name) →
      connection.field name = none := by
    intro name h
    have hname : Setting.ofName? name = none := by
      rw [Option.eq_none_iff_forall_ne_some]
      exact fun setting hsetting => h setting ((Setting.ofName?_eq_some_iff _ _).1 hsetting)
    rw [field, hname, Option.bind_none]
  refine ⟨fun setting name h => ?_, hunnamed, fun setting => hunnamed _ setting.not_goesBy_marked⟩
  rw [field, (Setting.ofName?_eq_some_iff _ _).2 h, Option.bind_some]

/-- A connection shows the extra fields that describe it and nothing else, and its settings are read
by their names alone. -/
theorem settings_of_extras :
    (∀ extras, ShowsExtras extras (ofExtras extras)) ∧
      ∀ connection : Connection, connection.ReadByName :=
  ⟨showsExtras_ofExtras, readByName⟩

example :
    let connection := ofExtras [("extra__google_cloud_platform__project", .boolean false),
      ("extra__google_cloud_platform__scope", .string ""), ("project", .string "p"),
      ("scope", .string "a, b")]
    connection.project = some "false" ∧ connection.scope = some "a, b" := by decide

end Connection

end CloudCredentials
