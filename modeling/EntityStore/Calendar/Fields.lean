import EntityStore.Calendar.Timestamp

/-!
# Fields of a timestamp

What has been read of a timestamp is a list of fields with their numbers.  A date
is determined by enough of them, and every other field has to agree with it.
-/

namespace EntityStore.Calendar

/-- A field of a timestamp. -/
inductive Field where
  | year
  | century
  | yearOfCentury
  | weekYear
  | weekYearOfCentury
  | quarter
  | month
  | day
  | weekFromSunday
  | weekFromMonday
  | isoWeek
  /-- The day of the week, with 0 for Monday. -/
  | weekday
  | dayOfYear
  /-- The half of the day. -/
  | half
  /-- The hour of the half day, from 0 to 11. -/
  | hourOfHalf
  | minute
  | second
  | nanosecond
  | unixSeconds
  | offset
  deriving DecidableEq

/-- The least and the greatest number of a field. -/
def Field.range : Field → Int × Int
  | .year | .weekYear | .offset => (-2147483648, 2147483647)
  | .century | .yearOfCentury | .weekYearOfCentury => (0, 99)
  | .quarter => (1, 4)
  | .month => (1, 12)
  | .day => (1, 31)
  | .weekFromSunday | .weekFromMonday => (0, 53)
  | .isoWeek => (1, 53)
  | .weekday => (0, 6)
  | .dayOfYear => (1, 366)
  | .half => (0, 1)
  | .hourOfHalf => (0, 11)
  | .minute => (0, 59)
  | .second => (0, 60)
  | .nanosecond => (0, 999999999)
  | .unixSeconds => (-9223372036854775808, 9223372036854775807)

/-- The fields that have been read, the last one first. -/
abbrev Fields := List (Field × Int)

/-- Why fields determine no date or time. -/
inductive Gap where
  | notEnough
  | outOfRange
  | impossible
  deriving DecidableEq

namespace Fields

/-- The number of a field. -/
def get? (fields : Fields) (field : Field) : Option Int :=
  fields.lookup field

/-- The fields with one more number, which must be in range and agree with a number
the field already has. -/
def set? (fields : Fields) (field : Field) (n : Int) : Option Fields :=
  if field.range.1 ≤ n ∧ n ≤ field.range.2 then
    match fields.get? field with
    | none => some ((field, n) :: fields)
    | some m => if m = n then some fields else none
  else none

/-- Whether a field has either no number or the given one. -/
def agrees (fields : Fields) (field : Field) (n : Int) : Bool :=
  match fields.get? field with
  | none => true
  | some m => m == n

/-- The year from a full year, a century and a year of the century.  A year of the
century alone lies between 1970 and 2069. -/
def resolveYear (year century ofCentury : Option Int) : Except Gap (Option Int) :=
  match year, century, ofCentury with
  | year, none, none => .ok year
  | some y, c, r =>
    if 0 ≤ y ∧ c.getD (y / 100) = y / 100 ∧ r.getD (y % 100) = y % 100 then .ok (some y)
    else .error .impossible
  | none, some c, some r => .ok (some (100 * c + r))
  | none, none, some r => .ok (some (r + if r < 70 then 2000 else 1900))
  | none, some _, none => .error .notEnough

/-- Whether a field that counts in the century of a year agrees; years before 0 have no
centuries. -/
def agreesInCentury (fields : Fields) (field : Field) (year n : Int) : Bool :=
  match fields.get? field with
  | none => true
  | some m => 0 ≤ year && m == n

/-- Whether year, month and day agree with a date. -/
def agreesByDay (fields : Fields) (d : Date) : Bool :=
  fields.agrees .year d.year &&
  fields.agreesInCentury .century d.year (d.year / 100) &&
  fields.agreesInCentury .yearOfCentury d.year (d.year % 100) &&
  fields.agrees .month d.month &&
  fields.agrees .day d.day

/-- Whether the year of weeks, the week and the day of the week agree with a date. -/
def agreesByWeek (fields : Fields) (d : Date) : Bool :=
  let (year, week) := d.isoWeek
  fields.agrees .weekYear year &&
  fields.agreesInCentury .weekYearOfCentury year (year % 100) &&
  fields.agrees .isoWeek week &&
  fields.agrees .weekday d.weekday

/-- Whether the day of the year and the weeks of the year agree with a date. -/
def agreesByOrdinal (fields : Fields) (d : Date) : Bool :=
  fields.agrees .dayOfYear d.ordinal &&
  fields.agrees .weekFromSunday (d.weekFrom 6) &&
  fields.agrees .weekFromMonday (d.weekFrom 0)

/-- A date, or the gap if there is none. -/
def orGap (date : Option Date) (gap : Gap) : Except Gap Date :=
  match date with
  | some d => .ok d
  | none => .error gap

/-- The date in a week of a year, where weeks begin on day `start` of the week. -/
def ofWeek (year : Int) (week weekday start : Nat) : Except Gap Date := do
  let first ← orGap (Date.ofOrdinal? year 1) .outOfRange
  let ordinal : Int :=
    1 + Date.daysSince start first.weekday + ((week : Int) - 1) * 7 +
      Date.daysSince weekday start
  if ordinal ≤ 0 then .error .impossible
  else orGap (Date.ofOrdinal? year ordinal.toNat) .impossible

/-- The date with a year, month and day. -/
def byDay? (fields : Fields) (year : Option Int) : Option (Except Gap Date) := do
  let year ← year
  let month ← fields.get? .month
  let day ← fields.get? .day
  return orGap (Date.ofYmd? year month.toNat day.toNat) .outOfRange

/-- The date with a year and a day of the year. -/
def byOrdinal? (fields : Fields) (year : Option Int) : Option (Except Gap Date) := do
  let year ← year
  let ordinal ← fields.get? .dayOfYear
  return orGap (Date.ofOrdinal? year ordinal.toNat) .outOfRange

/-- The date with a year, a week of the kind given and a day of the week. -/
def byWeek? (fields : Fields) (year : Option Int) (kind : Field) (start : Nat) :
    Option (Except Gap Date) := do
  let year ← year
  let week ← fields.get? kind
  let weekday ← fields.get? .weekday
  return ofWeek year week.toNat weekday.toNat start

/-- The date with a year of weeks, a week and a day of the week. -/
def byIsoWeek? (fields : Fields) (weekYear : Option Int) : Option (Except Gap Date) := do
  let year ← weekYear
  let week ← fields.get? .isoWeek
  let weekday ← fields.get? .weekday
  return orGap (Date.ofIsoWeek? year week.toNat weekday.toNat) .outOfRange

/-- The date the fields determine.  The first of these that has its fields decides:
year, month and day; the day of the year; weeks from Sunday; weeks from Monday; weeks
of the year of weeks. -/
def date (fields : Fields) : Except Gap Date := do
  let year ← resolveYear (fields.get? .year) (fields.get? .century) (fields.get? .yearOfCentury)
  let weekYear ← resolveYear (fields.get? .weekYear) none (fields.get? .weekYearOfCentury)
  let (found, agreed) ←
    match fields.byDay? year with
    | some d => do
      let d ← d
      pure (d, fields.agreesByWeek d && fields.agreesByOrdinal d)
    | none =>
      match (fields.byOrdinal? year).orElse fun _ =>
        (fields.byWeek? year .weekFromSunday 6).orElse fun _ =>
          fields.byWeek? year .weekFromMonday 0 with
      | some d => do
        let d ← d
        pure (d, fields.agreesByDay d && fields.agreesByWeek d && fields.agreesByOrdinal d)
      | none =>
        match fields.byIsoWeek? weekYear with
        | some d => do
          let d ← d
          pure (d, fields.agreesByDay d && fields.agreesByOrdinal d)
        | none => .error .notEnough
  if agreed && fields.agrees .quarter found.quarter then .ok found else .error .impossible

/-- The time the fields determine.  The second may be missing unless there is a
fraction; second 60 is a leap second. -/
def time (fields : Fields) : Except Gap TimeOfDay :=
  match fields.get? .half, fields.get? .hourOfHalf, fields.get? .minute with
  | some half, some hour, some minute =>
    let second := fields.get? .second
    let nanosecond := fields.get? .nanosecond
    if second.isNone && nanosecond.isSome then .error .notEnough
    else
      let given := (second.getD 0).toNat
      let leap := if given = 60 then nanosPerSecond else 0
      match TimeOfDay.ofHmsn? (12 * half + hour).toNat minute.toNat (min given 59)
          (leap + (nanosecond.getD 0).toNat) with
      | some t => .ok t
      | none => .error .outOfRange
  | _, _, _ => .error .notEnough

/-- Whether the seconds since 1970 agree with a timestamp; those of a leap second may be
one more. -/
def agreesByUnixSeconds (fields : Fields) (t : Timestamp) : Bool :=
  match fields.get? .unixSeconds with
  | none => true
  | some n =>
    n == t.unixSeconds ||
      (nanosPerSecond ≤ t.time.nanosecond && n == t.unixSeconds + 1)

/-- The fields completed by the seconds since 1970. -/
def completed? (fields : Fields) (seconds : Int) : Option Fields := do
  let t ← Timestamp.ofUnixSeconds? seconds
  let (t, fields) ←
    if fields.get? .second = some 60 then
      if t.time.second = 59 then some (t, fields)
      else if t.time.second = 0 then (Timestamp.ofUnixSeconds? (seconds - 1)).map (·, fields)
      else none
    else (fields.set? .second t.time.second).map (t, ·)
  let fields ← fields.set? .year t.date.year
  let fields ← fields.set? .dayOfYear t.date.ordinal
  let fields ← fields.set? .half (t.time.hour / 12 : Nat)
  let fields ← fields.set? .hourOfHalf (t.time.hour % 12 : Nat)
  fields.set? .minute t.time.minute

/-- The timestamp of a date and a time. -/
def both? (fields : Fields) : Option Timestamp :=
  match fields.date, fields.time with
  | .ok date, .ok time => some ⟨date, time⟩
  | _, _ => none

/-- The timestamp the fields determine, if need be with the help of the seconds since
1970. -/
def timestamp? (fields : Fields) : Option Timestamp :=
  match fields.date, fields.time with
  | .ok date, .ok time =>
    if fields.agreesByUnixSeconds ⟨date, time⟩ then some ⟨date, time⟩ else none
  | date, time => do
    let seconds ← fields.get? .unixSeconds
    if insufficient date && insufficient time then
      let fields ← fields.completed? seconds
      fields.both?
    else none
where
  /-- Whether there is a value, or only too little is known to have one. -/
  insufficient {α : Type} : Except Gap α → Bool
    | .error .notEnough | .ok _ => true
    | .error _ => false

end Fields

end EntityStore.Calendar
