import EntityStore.Calendar.Date
import EntityStore.Number.Text

/-!
# Timestamps

A timestamp is a date and a time of day without a zone.  A leap second is the second
after second 59, kept as second 59 with a billion nanoseconds or more.
-/

namespace EntityStore

open Text

/-- The nanoseconds of a second. -/
def nanosPerSecond : Nat := 1000000000

/-- Whether there is a time of day with the given parts. -/
def IsTime (hour minute second nanosecond : Nat) : Prop :=
  hour < 24 ∧ minute < 60 ∧ second < 60 ∧
    (nanosecond < nanosPerSecond ∨ (nanosecond < 2 * nanosPerSecond ∧ second = 59))

instance (hour minute second nanosecond : Nat) :
    Decidable (IsTime hour minute second nanosecond) :=
  inferInstanceAs (Decidable (_ ∧ _ ∧ _ ∧ (_ ∨ (_ ∧ _))))

/-- A time of day. -/
structure TimeOfDay where
  hour : Nat
  minute : Nat
  second : Nat
  nanosecond : Nat
  isTime : IsTime hour minute second nanosecond
  deriving DecidableEq

namespace TimeOfDay

/-- The time with the given parts, if there is one. -/
def ofHmsn? (hour minute second nanosecond : Nat) : Option TimeOfDay :=
  if h : IsTime hour minute second nanosecond then some ⟨hour, minute, second, nanosecond, h⟩
  else none

/-- The beginning of the day. -/
def midnight : TimeOfDay := ⟨0, 0, 0, 0, by decide⟩

/-- The seconds since midnight. -/
def seconds (t : TimeOfDay) : Nat :=
  3600 * t.hour + 60 * t.minute + t.second

/-- The order of times. -/
def compare (a b : TimeOfDay) : Ordering :=
  (Ord.compare a.seconds b.seconds).then (Ord.compare a.nanosecond b.nanosecond)

end TimeOfDay

/-- A date and a time of day. -/
structure Timestamp where
  date : Date
  time : TimeOfDay
  deriving DecidableEq

namespace Timestamp

/-- The number of the first day of 1970. -/
def epochDay : Int := 719163

/-- The seconds since the beginning of 1970; a leap second counts as the one before it. -/
def unixSeconds (t : Timestamp) : Int :=
  (t.date.number - epochDay) * 86400 + t.time.seconds

/-- The timestamp so many seconds after the beginning of 1970. -/
def ofUnixSeconds? (seconds : Int) : Option Timestamp := do
  let date ← Date.ofNumber? (seconds / 86400 + epochDay)
  let n := (seconds % 86400).toNat
  let time ← TimeOfDay.ofHmsn? (n / 3600) (n / 60 % 60) (n % 60) 0
  return ⟨date, time⟩

/-- The order of timestamps. -/
def compare (a b : Timestamp) : Ordering :=
  (a.date.compare b.date).then (a.time.compare b.time)

/-- A number with at least `width` digits. -/
def padded (width n : Nat) : List Char :=
  padLeft width '0' (decimalDigits n)

/-- A year with at least four digits, and with a sign if it has more or is negative. -/
def yearText (year : Int) : List Char :=
  if 0 ≤ year ∧ year ≤ 9999 then padded 4 year.natAbs
  else (if year < 0 then '-' else '+') :: padded 4 year.natAbs

/-- A fraction of a second with three, six or nine digits behind a point, or nothing. -/
def fractionText (nanos : Nat) : List Char :=
  if nanos = 0 then []
  else if nanos % 1000000 = 0 then '.' :: padded 3 (nanos / 1000000)
  else if nanos % 1000 = 0 then '.' :: padded 6 (nanos / 1000)
  else '.' :: padded 9 nanos

/-- The second as it is shown, where a leap second has number 60. -/
def shownSecond (t : TimeOfDay) : Nat :=
  t.second + t.nanosecond / nanosPerSecond

/-- The timestamp as it is shown in messages. -/
def shown (t : Timestamp) : String :=
  String.ofList <|
    yearText t.date.year ++ ['-'] ++ padded 2 t.date.month ++ ['-'] ++ padded 2 t.date.day ++
    ['T'] ++ padded 2 t.time.hour ++ [':'] ++ padded 2 t.time.minute ++ [':'] ++
    padded 2 (shownSecond t.time) ++ fractionText (t.time.nanosecond % nanosPerSecond)

end Timestamp

end EntityStore
