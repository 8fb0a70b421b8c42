/-!
# Calendar dates

Dates of the Gregorian calendar, extended to all years from -262143 to 262142.
Days are numbered with 1 for the first day of year 1, which was a Monday; years,
months and weeks are read off that number and back.
-/

namespace EntityStore

namespace Calendar

/-- The first year of the calendar. -/
def minYear : Int := -262143

/-- The last year of the calendar. -/
def maxYear : Int := 262142

/-- Whether a year has 366 days. -/
def isLeap (year : Int) : Bool :=
  year % 4 = 0 && (year % 100 ≠ 0 || year % 400 = 0)

/-- The lengths of the months of a year. -/
def monthLengths (year : Int) : List Nat :=
  [31, if isLeap year then 29 else 28, 31, 30, 31, 30, 31, 31, 30, 31, 30, 31]

/-- The number of days in a month, or zero if there is no such month. -/
def daysInMonth (year : Int) (month : Nat) : Nat :=
  if month = 0 then 0 else (monthLengths year).getD (month - 1) 0

/-- The number of days in a year. -/
def daysInYear (year : Int) : Nat :=
  if isLeap year then 366 else 365

/-- The number of days before a year, counted from the first day of year 1. -/
def daysBeforeYear (year : Int) : Int :=
  let y := year - 1
  365 * y + y / 4 - y / 100 + y / 400

/-- The number of days in a year before a month. -/
def daysBeforeMonth (year : Int) (month : Nat) : Nat :=
  ((monthLengths year).take (month - 1)).foldl (· + ·) 0

/-- Whether there is a date with the given year, month and day. -/
def IsDate (year : Int) (month day : Nat) : Prop :=
  minYear ≤ year ∧ year ≤ maxYear ∧ 1 ≤ day ∧ day ≤ daysInMonth year month

instance (year : Int) (month day : Nat) : Decidable (IsDate year month day) :=
  inferInstanceAs (Decidable (_ ∧ _ ∧ _ ∧ _))

end Calendar

open Calendar

/-- A date of the calendar. -/
structure Date where
  year : Int
  month : Nat
  day : Nat
  isDate : IsDate year month day
  deriving DecidableEq

namespace Date

/-- The date with the given year, month and day, if there is one. -/
def ofYmd? (year : Int) (month day : Nat) : Option Date :=
  if h : IsDate year month day then some ⟨year, month, day, h⟩ else none

/-- The position of a date in its year, counted from one. -/
def ordinal (d : Date) : Nat :=
  daysBeforeMonth d.year d.month + d.day

/-- The month and day at a position in a year, counted from zero, where the months from
`month` on have the given lengths. -/
def monthAt (month : Nat) : List Nat → Nat → Nat × Nat
  | [], n => (month, n + 1)
  | length :: lengths, n =>
    if n < length then (month, n + 1) else monthAt (month + 1) lengths (n - length)

/-- The date at a position in a year, counted from one. -/
def ofOrdinal? (year : Int) (ordinal : Nat) : Option Date :=
  if 1 ≤ ordinal ∧ ordinal ≤ daysInYear year then
    let (month, day) := monthAt 1 (monthLengths year) (ordinal - 1)
    ofYmd? year month day
  else none

/-- The number of a date, which is 1 for the first day of year 1. -/
def number (d : Date) : Int :=
  daysBeforeYear d.year + d.ordinal

/-- The date with a number, if it is in the calendar. -/
def ofNumber? (n : Int) : Option Date :=
  let era := (n - 1) / 146097
  let dayOfEra := ((n - 1) % 146097).toNat
  let century := min (dayOfEra / 36524) 3
  let dayOfCentury := dayOfEra - century * 36524
  let olympiad := dayOfCentury / 1461
  let dayOfOlympiad := dayOfCentury % 1461
  let yearOfOlympiad := min (dayOfOlympiad / 365) 3
  let year : Int := 400 * era + (100 * century + 4 * olympiad + yearOfOlympiad : Nat) + 1
  ofOrdinal? year (dayOfOlympiad - 365 * yearOfOlympiad + 1)

/-- The day of the week, counted from zero for Monday. -/
def weekday (d : Date) : Nat :=
  ((d.number - 1) % 7).toNat

/-- The quarter of the year, counted from one. -/
def quarter (d : Date) : Nat :=
  (d.month - 1) / 3 + 1

/-- The number of days from one day of the week forward to another. -/
def daysSince (weekday start : Nat) : Nat :=
  (weekday + 7 - start) % 7

/-- The number of the week in the year, where weeks begin on day `start` of the week
and the days before the first such day are in week zero. -/
def weekFrom (d : Date) (start : Nat) : Nat :=
  (d.ordinal + 6 - daysSince d.weekday start) / 7

/-- The number of the Monday that begins the first week of a year of weeks: the week
with the fourth of January. -/
def weekYearStart (year : Int) : Int :=
  let fourth := daysBeforeYear year + 4
  fourth - (fourth - 1) % 7

/-- The year of weeks a date belongs to, and the number of its week there. -/
def isoWeek (d : Date) : Int × Nat :=
  let year :=
    if d.number < weekYearStart d.year then d.year - 1
    else if weekYearStart (d.year + 1) ≤ d.number then d.year + 1
    else d.year
  (year, ((d.number - weekYearStart year) / 7).toNat + 1)

/-- The date with a year of weeks, a number of a week and a day of the week. -/
def ofIsoWeek? (year : Int) (week weekday : Nat) : Option Date :=
  if 1 ≤ week ∧ weekYearStart year + 7 * (week - 1) < weekYearStart (year + 1) then
    ofNumber? (weekYearStart year + 7 * (week - 1) + weekday)
  else none

/-- The order of dates. -/
def compare (a b : Date) : Ordering :=
  (Ord.compare a.year b.year).then ((Ord.compare a.month b.month).then (Ord.compare a.day b.day))

end Date

end EntityStore
