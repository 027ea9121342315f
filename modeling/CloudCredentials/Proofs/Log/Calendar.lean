import CloudCredentials.Log.Timestamp
import Mathlib.Tactic.IntervalCases

/-!
# The calendar

The Gregorian calendar in its usual form: the length of a month, and the date of the next day.
`falls_iff` says that the date of a day is the one that is reached from the first of January 1970 by
going from date to date, `ofDays`.
-/

namespace CloudCredentials.Log.Date

/-! ## Dates one after the other -/

/-- The year has a day more than others. -/
def isLeap (year : Int) : Bool :=
  year % 4 = 0 && (year % 100 ≠ 0 || year % 400 = 0)

/-- The number of days in a month, of a leap year or of another one. -/
def monthLength (leap : Bool) : Nat → Nat
  | 2 => if leap then 29 else 28
  | 4 | 6 | 9 | 11 => 30
  | _ => 31

/-- No month has more than 31 days. -/
theorem monthLength_le (leap : Bool) (month : Nat) : monthLength leap month ≤ 31 := by
  rw [monthLength.eq_def]
  split
  · cases leap <;> decide
  all_goals decide

/-- The date of the next day. -/
def next (date : Date) : Date :=
  if date.day < monthLength (isLeap date.year) date.month then { date with day := date.day + 1 }
  else if date.month < 12 then ⟨date.year, date.month + 1, 1⟩
  else ⟨date.year + 1, 1, 1⟩

/-- The date of the day before. -/
def previous (date : Date) : Date :=
  if 1 < date.day then { date with day := date.day - 1 }
  else if 1 < date.month then
    ⟨date.year, date.month - 1, monthLength (isLeap date.year) (date.month - 1)⟩
  else ⟨date.year - 1, 12, 31⟩

/-- `Falls days date` says that the date is so many days after the first of January 1970, or before
it. -/
inductive Falls : Int → Date → Prop where
  | epoch : Falls 0 ⟨1970, 1, 1⟩
  | later {days : Int} {date : Date} (h : Falls days date) : Falls (days + 1) date.next
  | earlier {days : Int} {date : Date} (h : Falls days date) : Falls (days - 1) date.previous

/-- The calendar has the date. -/
structure IsValid (date : Date) : Prop where
  one_le_month : 1 ≤ date.month
  month_le : date.month ≤ 12
  one_le_day : 1 ≤ date.day
  day_le : date.day ≤ monthLength (isLeap date.year) date.month

/-- The date before the next one is the date. -/
theorem IsValid.previous_next {date : Date} (h : date.IsValid) : date.next.previous = date := by
  obtain ⟨hmonth, hmonthLe, hday, hdayLe⟩ := h
  obtain ⟨year, month, day⟩ := date
  rw [next]
  split
  · next hgo =>
      rw [previous, if_pos (Nat.lt_add_of_pos_left hday)]
      rfl
  · next hlast =>
      have hlength : day = monthLength (isLeap year) month :=
        Nat.le_antisymm hdayLe (Nat.le_of_not_lt hlast)
      split
      · next hgo =>
          rw [previous, if_neg (Nat.lt_irrefl 1), if_pos (Nat.lt_add_of_pos_left hmonth), hlength]
          rfl
      · next hdecember =>
          obtain rfl : month = 12 := Nat.le_antisymm hmonthLe (Nat.le_of_not_lt hdecember)
          rw [previous, if_neg (Nat.lt_irrefl 1), if_neg (Nat.lt_irrefl 1), hlength]
          simp [monthLength]

/-! ## Months of a year that begins with March -/

/-- The month of the calendar, from its place in a year that begins with March. -/
def monthOf (fromMarch : Nat) : Nat :=
  if fromMarch < 10 then fromMarch + 3 else fromMarch - 9

/-- The date with a month and a day in a year that begins with March. -/
def inYear (year : Int) (monthAndDay : Nat × Nat) : Date :=
  ⟨year + (if monthOf monthAndDay.1 ≤ 2 then 1 else 0), monthOf monthAndDay.1, monthAndDay.2 + 1⟩

/-- The last day of a year that begins with March, counted from zero. It is a leap day if the year
after the one that begins is a leap year. -/
def lastDay (leap : Bool) : Nat := if leap then 365 else 364

/-- A month goes on, or the next one begins. -/
theorem monthAndDay_succ (leap : Bool) : ∀ rest < 365, rest < lastDay leap →
    (monthAndDay rest).1 ≤ 11 ∧
      if (monthAndDay rest).2 + 1 < monthLength leap (monthOf (monthAndDay rest).1) then
        monthAndDay (rest + 1) = ((monthAndDay rest).1, (monthAndDay rest).2 + 1)
      else (monthAndDay rest).1 < 11 ∧ monthAndDay (rest + 1) = ((monthAndDay rest).1 + 1, 0) := by
  cases leap <;> decide +kernel

/-- The last day of a year is the last one of February. -/
theorem monthAndDay_lastDay (leap : Bool) :
    monthAndDay (lastDay leap) = (11, monthLength leap 2 - 1) := by
  cases leap <;> decide

/-- Every day of a year is in one of its months. -/
theorem monthAndDay_bounds (leap : Bool) : ∀ rest < 366, rest ≤ lastDay leap →
    (monthAndDay rest).1 ≤ 11 ∧
      (monthAndDay rest).2 < monthLength leap (monthOf (monthAndDay rest).1) := by
  cases leap <;> decide +kernel

/-- The months of such a year are as long as those of the calendar. -/
theorem monthLength_inYear {fromMarch : Nat} (h : fromMarch ≤ 11) (year : Int) (day : Nat) :
    monthLength (isLeap (inYear year (fromMarch, day)).year) (inYear year (fromMarch, day)).month =
      monthLength (isLeap (year + 1)) (monthOf fromMarch) := by
  interval_cases fromMarch <;> rfl

/-- The calendar has the date of every day of a year. -/
theorem isValid_inYear {year : Int} {rest : Nat} (h : rest ≤ lastDay (isLeap (year + 1))) :
    (inYear year (monthAndDay rest)).IsValid := by
  have hrest : rest < 366 := by
    rw [lastDay] at h
    split at h <;> omega
  obtain ⟨hmonth, hday⟩ := monthAndDay_bounds (isLeap (year + 1)) rest hrest h
  have hlength := monthLength_inYear hmonth year (monthAndDay rest).2
  refine ⟨?_, ?_, Nat.succ_pos _, hlength ▸ hday⟩
  · show 1 ≤ monthOf _
    rw [monthOf]
    split <;> omega
  · show monthOf _ ≤ 12
    rw [monthOf]
    split <;> omega

/-- The next date is in the same month, in the next one, or in the next year. -/
theorem next_inYear {fromMarch : Nat} (h : fromMarch ≤ 11) (year : Int) (day : Nat) :
    (inYear year (fromMarch, day)).next =
      if day + 1 < monthLength (isLeap (year + 1)) (monthOf fromMarch) then
        inYear year (fromMarch, day + 1)
      else if fromMarch < 11 then inYear year (fromMarch + 1, 0)
      else inYear (year + 1) (0, 0) := by
  rw [next, monthLength_inYear h]
  show (if day + 1 < _ then _ else _) = _
  split
  · rfl
  · interval_cases fromMarch <;> simp [inYear, monthOf]

/-- The next date within a year. -/
theorem next_inYear_of_lt {year : Int} {rest : Nat} (h : rest < lastDay (isLeap (year + 1))) :
    (inYear year (monthAndDay rest)).next = inYear year (monthAndDay (rest + 1)) := by
  have hrest : rest < 365 := by
    rw [lastDay] at h
    split at h <;> omega
  obtain ⟨hmonth, hnext⟩ := monthAndDay_succ (isLeap (year + 1)) rest hrest h
  rw [next_inYear hmonth]
  split
  · next hlt =>
      rw [if_pos hlt] at hnext
      rw [hnext]
  · next hlast =>
      rw [if_neg hlast] at hnext
      rw [if_pos hnext.1, hnext.2]

/-- The next date at the end of a year. -/
theorem next_inYear_lastDay (year : Int) :
    (inYear year (monthAndDay (lastDay (isLeap (year + 1))))).next =
      inYear (year + 1) (monthAndDay 0) := by
  have hlast : ¬ monthLength (isLeap (year + 1)) 2 - 1 + 1 <
      monthLength (isLeap (year + 1)) (monthOf 11) := by
    cases isLeap (year + 1) <;> decide
  rw [monthAndDay_lastDay, next_inYear (Nat.le_refl 11), if_neg hlast, if_neg (Nat.lt_irrefl 11)]
  rfl

/-! ## Years in four hundred years -/

/-- `Parts days era century cycle year rest` says how a day is reached: after so many times four
hundred years, so many centuries, so many cycles of four years and so many years that begin with
March, on this day of the year. -/
structure Parts (days era : Int) (century cycle year rest : Nat) : Prop where
  days_eq : days + 719468 =
    146097 * era + 36524 * century + 1461 * cycle + 365 * year + rest
  century_le : century ≤ 3
  cycle_le : cycle ≤ 24
  year_le : year ≤ 3
  /-- The last year of a cycle has a leap day, unless the cycle is the last one of a century that is
  not the last. -/
  rest_le : rest ≤ 364 ∨ rest = 365 ∧ year = 3 ∧ (cycle = 24 → century = 3)

/-- Every day is reached. -/
theorem exists_parts (days : Int) :
    ∃ era century cycle year rest, Parts days era century cycle year rest := by
  let shifted := days + 719468
  let day := (shifted % 146097).toNat
  let century := min (day / 36524) 3
  let inCentury := day - 36524 * century
  let inCycle := inCentury % 1461
  let year := min (inCycle / 365) 3
  refine ⟨shifted / 146097, century, inCentury / 1461, year, inCycle - 365 * year, ?_⟩
  constructor <;> omega

namespace Parts

variable {days era : Int} {century cycle year rest : Nat}

/-- The year and the day of the year are those of the parts. -/
theorem yearAndDay_eq (h : Parts days era century cycle year rest) :
    (days + daysToEpoch) / calendarDays = era ∧
      yearAndDay ((days + daysToEpoch) % calendarDays).toNat =
        (100 * century + 4 * cycle + year, rest) := by
  obtain ⟨hdays, hcentury, hcycle, hyear, hrest⟩ := h
  rw [daysToEpoch, calendarDays]
  have hday : ((days + 719468) % (146097 : Nat)).toNat =
      36524 * century + 1461 * cycle + 365 * year + rest := by omega
  have hfirst : min ((36524 * century + 1461 * cycle + 365 * year + rest) / 36524) 3 = century := by
    omega
  have hsecond : 36524 * century + 1461 * cycle + 365 * year + rest - century * 36524 =
      1461 * cycle + (365 * year + rest) := by omega
  have hthird : (1461 * cycle + (365 * year + rest)) / 1461 = cycle := by omega
  have hfourth : (1461 * cycle + (365 * year + rest)) % 1461 = 365 * year + rest := by omega
  have hfifth : min ((365 * year + rest) / 365) 3 = year := by omega
  refine ⟨by omega, ?_⟩
  rw [hday, yearAndDay]
  simp only [centuryDays, leapCycleDays, hfirst, hsecond, hthird, hfourth, hfifth, Prod.mk.injEq]
  omega

/-- The date is the one that the parts give. -/
theorem ofDays_eq (h : Parts days era century cycle year rest) :
    ofDays days = inYear (400 * era + 100 * century + 4 * cycle + year) (monthAndDay rest) := by
  obtain ⟨hera, hyear⟩ := h.yearAndDay_eq
  have hsum : ((100 * century + 4 * cycle + year : Nat) : Int) + era * 400 =
      400 * era + 100 * century + 4 * cycle + year := by omega
  rw [ofDays]
  simp only [hera, hyear]
  rw [← hsum]
  rfl

/-- The last day of the year. -/
theorem lastDay_eq (h : Parts days era century cycle year rest) :
    lastDay (isLeap (400 * era + 100 * century + 4 * cycle + year + 1)) =
      if year = 3 ∧ (cycle = 24 → century = 3) then 365 else 364 := by
  have hcentury := h.century_le
  have hcycle := h.cycle_le
  have hyear := h.year_le
  have hleap : isLeap (400 * era + 100 * century + 4 * cycle + year + 1) = true ↔
      year = 3 ∧ (cycle = 24 → century = 3) := by
    simp only [isLeap, Bool.and_eq_true, Bool.or_eq_true, decide_eq_true_eq]
    omega
  rw [lastDay]
  simp only [hleap]

/-- A year has no day after its last one. -/
theorem rest_le_lastDay (h : Parts days era century cycle year rest) :
    rest ≤ lastDay (isLeap (400 * era + 100 * century + 4 * cycle + year + 1)) := by
  have hrest := h.rest_le
  rw [h.lastDay_eq]
  split <;> omega

/-- The next day of the same year. -/
theorem succ (h : Parts days era century cycle year rest)
    (hlt : rest < lastDay (isLeap (400 * era + 100 * century + 4 * cycle + year + 1))) :
    Parts (days + 1) era century cycle year (rest + 1) := by
  rw [h.lastDay_eq] at hlt
  obtain ⟨hdays, hcentury, hcycle, hyear, -⟩ := h
  refine ⟨by omega, hcentury, hcycle, hyear, ?_⟩
  split at hlt <;> omega

/-- The first day of the next year. -/
theorem ofDays_succ_lastDay (h : Parts days era century cycle year rest)
    (heq : rest = lastDay (isLeap (400 * era + 100 * century + 4 * cycle + year + 1))) :
    ofDays (days + 1) =
      inYear (400 * era + 100 * century + 4 * cycle + year + 1) (monthAndDay 0) := by
  have hlast : rest = 365 ∧ year = 3 ∧ (cycle = 24 → century = 3) ∨
      rest = 364 ∧ ¬ (year = 3 ∧ (cycle = 24 → century = 3)) := by
    rw [h.lastDay_eq] at heq
    split at heq <;> omega
  obtain ⟨hdays, hcentury, hcycle, hyear, -⟩ := h
  -- The year that begins is in the same cycle, or it is the first one of a cycle, of a century or of
  -- four hundred years.
  have hyears : ∀ first second : Int, first = second →
      inYear first (monthAndDay 0) = inYear second (monthAndDay 0) := by
    rintro first _ rfl
    rfl
  by_cases hyearEnds : year < 3
  · have hnext : Parts (days + 1) era century cycle (year + 1) 0 := by
      constructor <;> omega
    rw [hnext.ofDays_eq]
    exact hyears _ _ (by omega)
  by_cases hcycleEnds : cycle < 24
  · have hnext : Parts (days + 1) era century (cycle + 1) 0 0 := by
      constructor <;> omega
    rw [hnext.ofDays_eq]
    exact hyears _ _ (by omega)
  by_cases hcenturyEnds : century < 3
  · have hnext : Parts (days + 1) era (century + 1) 0 0 0 := by
      constructor <;> omega
    rw [hnext.ofDays_eq]
    exact hyears _ _ (by omega)
  · have hnext : Parts (days + 1) (era + 1) 0 0 0 0 := by
      constructor <;> omega
    rw [hnext.ofDays_eq]
    exact hyears _ _ (by omega)

end Parts

/-! ## The date of a day -/

/-- The date of the next day is the next date. -/
theorem ofDays_succ (days : Int) : ofDays (days + 1) = (ofDays days).next := by
  obtain ⟨era, century, cycle, year, rest, hparts⟩ := exists_parts days
  rw [hparts.ofDays_eq]
  rcases Nat.lt_or_eq_of_le hparts.rest_le_lastDay with hlt | heq
  · rw [(hparts.succ hlt).ofDays_eq, next_inYear_of_lt hlt]
  · rw [hparts.ofDays_succ_lastDay heq, heq, next_inYear_lastDay]

/-- The date of a day is one that the calendar has. -/
theorem isValid_ofDays (days : Int) : (ofDays days).IsValid := by
  obtain ⟨era, century, cycle, year, rest, hparts⟩ := exists_parts days
  rw [hparts.ofDays_eq]
  exact isValid_inYear hparts.rest_le_lastDay

/-- The date of a day is the one that falls on it. -/
theorem falls_iff (days : Int) (date : Date) : Falls days date ↔ date = ofDays days := by
  have hepoch : ofDays 0 = ⟨1970, 1, 1⟩ := by decide
  have hprevious : ∀ days, ofDays (days - 1) = (ofDays days).previous := by
    intro days
    rw [← (isValid_ofDays (days - 1)).previous_next, ← ofDays_succ, Int.sub_add_cancel]
  constructor
  · intro h
    induction h with
    | epoch => exact hepoch.symm
    | later _ ih => rw [ih, ofDays_succ]
    | earlier _ ih => rw [ih, hprevious]
  · rintro rfl
    induction days using Int.induction_on with
    | zero =>
        rw [hepoch]
        exact .epoch
    | succ days ih =>
        rw [ofDays_succ]
        exact ih.later
    | pred days ih =>
        rw [hprevious]
        exact ih.earlier

end CloudCredentials.Log.Date
