import CloudCredentials.Text.Bytes

/-!
# Environment variables

The variables of the process, by name. A value is a byte sequence and need not be text.
-/

namespace CloudCredentials

/-- The variables that are set, with their values. -/
abbrev Environment := List (String × Bytes)

namespace Environment

/-- The value of a variable, if it is set. -/
def get? (environment : Environment) (name : String) : Option Bytes :=
  environment.lookup name

/-- The value of a variable, if it is set to a text. -/
def text? (environment : Environment) (name : String) : Option String :=
  (get? environment name).bind Bytes.text?

/-- The environment without a variable. -/
def unset (environment : Environment) (name : String) : Environment :=
  environment.filter (·.1 != name)

/-- The environment with a variable set. -/
def set (environment : Environment) (name : String) (value : Bytes) : Environment :=
  (name, value) :: unset environment name

/-- The environment with a variable set, or without it if there is no value. -/
def put (environment : Environment) (name : String) : Option Bytes → Environment
  | some value => set environment name value
  | none => unset environment name

/-- A variable that has been unset is not set. -/
@[simp] theorem get?_unset_self (environment : Environment) (name : String) :
    get? (unset environment name) name = none := by
  induction environment with
  | nil => rfl
  | cons entry rest ih =>
      obtain ⟨other, value⟩ := entry
      by_cases h : other = name
      · simpa [get?, unset, h] using ih
      · have hne : (name == other) = false := beq_eq_false_iff_ne.mpr fun heq => h heq.symm
        simpa [get?, unset, h, List.lookup_cons, hne] using ih

/-- Unsetting a variable leaves the others alone. -/
theorem get?_unset_of_ne (environment : Environment) (name other : String) (h : other ≠ name) :
    get? (unset environment name) other = get? environment other := by
  induction environment with
  | nil => rfl
  | cons entry rest ih =>
      obtain ⟨present, value⟩ := entry
      by_cases hname : present = name
      · have hne : (other == present) = false :=
          beq_eq_false_iff_ne.mpr fun heq => h (heq.trans hname)
        simpa [get?, unset, hname, List.lookup_cons, hname ▸ hne] using ih
      · by_cases hother : other = present
        · simp [get?, unset, hname, hother]
        · have hne : (other == present) = false := beq_eq_false_iff_ne.mpr hother
          simpa [get?, unset, hname, List.lookup_cons, hne] using ih

/-- A variable has the value that it has been given. -/
@[simp] theorem get?_put_self (environment : Environment) (name : String) (value : Option Bytes) :
    get? (put environment name value) name = value := by
  cases value with
  | none => exact get?_unset_self environment name
  | some value => simp [put, set, get?]

/-- Giving a variable a value leaves the others alone. -/
theorem get?_put_of_ne (environment : Environment) (name other : String) (value : Option Bytes)
    (h : other ≠ name) : get? (put environment name value) other = get? environment other := by
  cases value with
  | none => exact get?_unset_of_ne environment name other h
  | some value =>
      have hne : (other == name) = false := beq_eq_false_iff_ne.mpr h
      have hunset := get?_unset_of_ne environment name other h
      simpa [put, set, get?, List.lookup_cons, hne] using hunset

end Environment

end CloudCredentials
