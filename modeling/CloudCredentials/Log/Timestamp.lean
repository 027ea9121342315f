/-!
# Timestamps

The text of a time: the date in the Gregorian calendar and the time of day in coordinated universal
time, with microseconds. Times are whole seconds since the start of 1970.
-/

namespace CloudCredentials.Log

/-- A day of the calendar. -/
structure Date where
  year : Int
  month : Nat
  day : Nat
deriving DecidableEq, Repr

namespace Date

/-- The days in a hundred years of which the last is no leap year. -/
def centuryDays : Nat := 36524

/-- The days in four years of which one is a leap year. -/
def leapCycleDays : Nat := 1461

/-- The days in four hundred years. The calendar repeats after them. -/
def calendarDays : Nat := 146097

/-- The days from the first of March of the year 0 to the first day of 1970. -/
def daysToEpoch : Int := 719468

/-- The year of a day in four hundred years, and the day of that year, both counted from zero.
Years begin with March here, so that the day that leap years have is the last of its year. -/
def yearAndDay (day : Nat) : Nat × Nat :=
  let century := min (day / centuryDays) 3
  let ofCentury := day - century * centuryDays
  let ofLeapCycle := ofCentury % leapCycleDays
  let year := min (ofLeapCycle / 365) 3
  (century * 100 + ofCentury / leapCycleDays * 4 + year, ofLeapCycle - year * 365)

/-- The month of a day of the year, and the day of that month, both counted from zero at the first
of March. -/
def monthAndDay (dayOfYear : Nat) : Nat × Nat :=
  let month := (5 * dayOfYear + 2) / 153
  (month, dayOfYear - (153 * month + 2) / 5)

/-- The day a number of days after the first day of 1970. -/
def ofDays (days : Int) : Date :=
  let shifted := days + daysToEpoch
  let (year, dayOfYear) := yearAndDay (shifted % calendarDays).toNat
  let (fromMarch, day) := monthAndDay dayOfYear
  let month := if fromMarch < 10 then fromMarch + 3 else fromMarch - 9
  { year := year + shifted / calendarDays * 400 + (if month ≤ 2 then 1 else 0)
    month := month
    day := day + 1 }

end Date

/-- The digits of a number, with zeros in front up to a width. -/
def padded (width value : Nat) : List Char :=
  let digits := Nat.toDigits 10 value
  List.replicate (width - digits.length) '0' ++ digits

/-- The text of a year: four digits at least, with a sign unless it is one of these digits alone. -/
def yearText (year : Int) : List Char :=
  if 9999 < year then '+' :: padded 0 year.toNat
  else if year < 0 then '-' :: padded 4 (-year).toNat
  else padded 4 year.toNat

/-- The number of seconds in a day. -/
def daySeconds : Int := 86400

/-- The text of a time. -/
def timestamp (seconds : Int) : String :=
  let date := Date.ofDays (seconds / daySeconds)
  let second := (seconds % daySeconds).toNat
  String.ofList (yearText date.year ++ '-' :: padded 2 date.month ++ '-' :: padded 2 date.day ++
    'T' :: padded 2 (second / 3600) ++ ':' :: padded 2 (second / 60 % 60) ++
    ':' :: padded 2 (second % 60) ++ ".000000Z".toList)

end CloudCredentials.Log
